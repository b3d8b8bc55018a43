import Repricing.Proofs.Document.Parts
import Repricing.Proofs.Document.RoundTrip
import Repricing.Proofs.Evaluation.Independence

namespace Repricing

section Amount

/-- The document spells an amount, as a number or as a text. -/
inductive Json.IsAmount : Json → Decimal → Prop
  | number {n : Json.Number} {d : Decimal} (h : Decimal.ofNumber? n = some d) : IsAmount (.number n) d
  | text {s : String} {d : Decimal} (h : Decimal.ofText? s = some d) : IsAmount (.string s) d

theorem Decoder.text_eq_ok_iff (part : Json) (s : String) : text part = .ok s ↔ part = .string s := by
  cases part <;> simp [text]

theorem Decoder.decimal_eq_ok_iff (part : Json) (d : Decimal) : decimal part = .ok d ↔ part.IsAmount d := by
  constructor
  · intro h
    cases part with
    | number n =>
      cases hn : Decimal.ofNumber? n with
      | none => simp [decimal, hn] at h
      | some found =>
        simp only [decimal, hn, Except.ok.injEq] at h
        exact .number (h ▸ hn)
    | string s =>
      cases hs : Decimal.ofText? s with
      | none => simp [decimal, hs] at h
      | some found =>
        simp only [decimal, hs, Except.ok.injEq] at h
        exact .text (h ▸ hs)
    | _ => cases h
  · rintro (h | h) <;> simp [decimal, h]

theorem Decoder.int64_eq_ok_iff (part : Json) (n : Int64) : int64 part = .ok n ↔ part = .ofInt n.toInt := by
  constructor
  · intro h
    unfold int64 at h
    split at h
    · rename_i m
      split_ifs at h with hrange
      obtain rfl := Except.ok.inj h
      obtain ⟨hlow, hhigh⟩ := hrange
      rw [Json.ofInt, Int64.toInt_ofInt_of_le (by omega) (by omega)]
    · cases h
  · rintro rfl
    exact decode_int64 Json.rearranges_id n

end Amount

section Details

variable {document : Json}

/-- The details of a price are written in a document: the four of them, by name or by place. -/
structure PriceDetails.IsWrittenIn (document : Json) (d : PriceDetails) : Prop where
  record : document.IsRecord 4
  skuId : document.part? "skuId" 0 = some (.string d.skuId)
  currentPrice : ∃ part, document.part? "currentPrice" 1 = some part ∧ part.IsAmount d.currentPrice
  suggestedPrice : ∃ part, document.part? "suggestedPrice" 2 = some part ∧ part.IsAmount d.suggestedPrice
  delta : ∃ part, document.part? "delta" 3 = some part ∧ part.IsAmount d.delta

/-- The details of a notice are written in a document, of which only the article is required. -/
structure NotifyDetails.IsWrittenIn (document : Json) (d : NotifyDetails) : Prop where
  record : document.IsRecord 4
  skuId : document.part? "skuId" 0 = some (.string d.skuId)
  available : Json.IsOptional (fun part n => part = .ofInt n.toInt) (document.part? "available" 1) d.available
  threshold : Json.IsOptional (fun part n => part = .ofInt n.toInt) (document.part? "threshold" 2) d.threshold
  message : Json.IsOptional (fun part s => part = .string s) (document.part? "message" 3) d.message

/-- What an action does is written in a document. A price goes first: a notice is written where no price is. -/
inductive ActionDetails.IsWrittenIn (document : Json) : ActionDetails → Prop
  | price {d : PriceDetails} (h : d.IsWrittenIn document) : IsWrittenIn document (.price d)
  | notify {d : NotifyDetails} (hprice : ∀ other : PriceDetails, ¬other.IsWrittenIn document)
      (h : d.IsWrittenIn document) : IsWrittenIn document (.notify d)

theorem PriceDetails.decode_eq_ok_iff {setting : Setting} {d : PriceDetails} :
    shape.decode setting document = .ok d ↔ d.IsWrittenIn document := by
  rw [RecordShape.decode_eq_ok_iff rfl <| .more (.more (.more (.more (.none PriceDetails.mk)
    (.required "skuId" Decoder.text_eq_ok_iff)) (.required "currentPrice" Decoder.decimal_eq_ok_iff))
    (.required "suggestedPrice" Decoder.decimal_eq_ok_iff)) (.required "delta" Decoder.decimal_eq_ok_iff)]
  constructor
  · rintro ⟨hrecord, _, _, ⟨_, _, ⟨_, _, ⟨_, _, rfl, ⟨_, hid, rfl⟩, rfl⟩, hcurrent, rfl⟩, hsuggested, rfl⟩, hdelta,
      rfl⟩
    exact ⟨hrecord, hid, hcurrent, hsuggested, hdelta⟩
  · rintro ⟨hrecord, hid, hcurrent, hsuggested, hdelta⟩
    exact ⟨hrecord, _, _, ⟨_, _, ⟨_, _, ⟨_, _, rfl, ⟨_, hid, rfl⟩, rfl⟩, hcurrent, rfl⟩, hsuggested, rfl⟩, hdelta,
      rfl⟩

theorem NotifyDetails.decode_eq_ok_iff {setting : Setting} {d : NotifyDetails} :
    shape.decode setting document = .ok d ↔ d.IsWrittenIn document := by
  rw [RecordShape.decode_eq_ok_iff rfl <| .more (.more (.more (.more (.none NotifyDetails.mk)
    (.required "skuId" Decoder.text_eq_ok_iff)) (.optional "available" Decoder.int64_eq_ok_iff (by simp [Json.ofInt])))
    (.optional "threshold" Decoder.int64_eq_ok_iff (by simp [Json.ofInt])))
    (.optional "message" Decoder.text_eq_ok_iff (by simp))]
  constructor
  · rintro ⟨hrecord, _, _, ⟨_, _, ⟨_, _, ⟨_, _, rfl, ⟨_, hid, rfl⟩, rfl⟩, havailable, rfl⟩, hthreshold, rfl⟩, hmessage,
      rfl⟩
    exact ⟨hrecord, hid, havailable, hthreshold, hmessage⟩
  · rintro ⟨hrecord, hid, havailable, hthreshold, hmessage⟩
    exact ⟨hrecord, _, _, ⟨_, _, ⟨_, _, ⟨_, _, rfl, ⟨_, hid, rfl⟩, rfl⟩, havailable, rfl⟩, hthreshold, rfl⟩, hmessage,
      rfl⟩

theorem ActionDetails.decode_eq_ok_iff {details : ActionDetails} :
    decode document = .ok details ↔ details.IsWrittenIn document := by
  unfold decode
  cases hprice : PriceDetails.shape.decode .buffered document with
  | ok d =>
    have hwritten : d.IsWrittenIn document := PriceDetails.decode_eq_ok_iff.mp hprice
    constructor
    · rintro ⟨⟩
      exact .price hwritten
    · rintro (hother | ⟨hnone, -⟩)
      · rw [← hprice, PriceDetails.decode_eq_ok_iff.mpr hother]
      · exact absurd hwritten (hnone d)
  | error e =>
    have hnone (other : PriceDetails) : ¬other.IsWrittenIn document := by
      intro h
      cases hprice.symm.trans (PriceDetails.decode_eq_ok_iff.mpr h)
    dsimp only
    constructor
    · cases hnotify : NotifyDetails.shape.decode .buffered document with
      | error e' => rintro ⟨⟩
      | ok d =>
        rintro ⟨⟩
        exact .notify hnone (NotifyDetails.decode_eq_ok_iff.mp hnotify)
    · rintro (h | ⟨-, h⟩)
      · exact absurd h (hnone _)
      · rw [NotifyDetails.decode_eq_ok_iff.mpr h]

theorem ActionDetails.decode_eq_error (hprice : ∀ d : PriceDetails, ¬d.IsWrittenIn document)
    (hnotify : ∀ d : NotifyDetails, ¬d.IsWrittenIn document) :
    decode document = .error (.noVariant "ActionDetails") := by
  unfold decode
  cases hd : PriceDetails.shape.decode .buffered document with
  | ok d => exact absurd (PriceDetails.decode_eq_ok_iff.mp hd) (hprice d)
  | error e =>
    cases hn : NotifyDetails.shape.decode .buffered document with
    | ok n => exact absurd (NotifyDetails.decode_eq_ok_iff.mp hn) (hnotify n)
    | error e' => rfl

theorem ActionDetails.isWrittenIn_price_iff {d : PriceDetails} :
    (price d).IsWrittenIn document ↔ d.IsWrittenIn document := by
  constructor
  · rintro (h | _)
    exact h
  · exact .price

theorem ActionDetails.isWrittenIn_notify_iff {n : NotifyDetails} :
    (notify n).IsWrittenIn document ↔ (∀ d : PriceDetails, ¬d.IsWrittenIn document) ∧ n.IsWrittenIn document := by
  constructor
  · rintro (_ | ⟨hprice, h⟩)
    exact ⟨hprice, h⟩
  · rintro ⟨hprice, h⟩
    exact .notify hprice h

/-- A document holds the details of one action only. -/
theorem ActionDetails.IsWrittenIn.eq_iff {a b : ActionDetails} (h : a.IsWrittenIn document) :
    a = b ↔ b.IsWrittenIn document := by
  rw [← decode_eq_ok_iff, decode_eq_ok_iff.mpr h, Except.ok.injEq]

end Details

section Action

/-- A suggested action is written in a document. Nothing ties the details to the type. -/
structure SuggestedAction.IsWrittenIn (document : Json) (a : SuggestedAction) : Prop where
  record : document.IsRecord 5
  type : ∃ part, document.part? "type" 0 = some part ∧ ActionType.decode part = .ok a.type
  title : document.part? "title" 1 = some (.string a.title)
  details : ∃ part, document.part? "details" 2 = some part ∧ a.details.IsWrittenIn part
  ruleId : document.part? "ruleId" 3 = some (.string a.ruleId)
  reason : document.part? "reason" 4 = some (.string a.reason)

theorem SuggestedAction.decode_eq_ok_iff {document : Json} {a : SuggestedAction} :
    decode document = .ok a ↔ a.IsWrittenIn document := by
  have htype (part : Json) (t : ActionType) : ActionType.decode part = .ok t ↔ ActionType.decode part = .ok t :=
    Iff.rfl
  have hdetails (part : Json) (d : ActionDetails) : ActionDetails.decode part = .ok d ↔ d.IsWrittenIn part :=
    ActionDetails.decode_eq_ok_iff
  rw [decode, RecordShape.decode_eq_ok_iff rfl <| .more (.more (.more (.more (.more (.none SuggestedAction.mk)
    (.required "type" htype)) (.required "title" Decoder.text_eq_ok_iff)) (.required "details" hdetails))
    (.required "ruleId" Decoder.text_eq_ok_iff)) (.required "reason" Decoder.text_eq_ok_iff)]
  constructor
  · rintro ⟨hrecord, _, _, ⟨_, _, ⟨_, _, ⟨_, _, ⟨_, _, rfl, htype, rfl⟩, ⟨_, htitle, rfl⟩, rfl⟩, hdetails, rfl⟩,
      ⟨_, hrule, rfl⟩, rfl⟩, ⟨_, hreason, rfl⟩, rfl⟩
    exact ⟨hrecord, htype, htitle, hdetails, hrule, hreason⟩
  · rintro ⟨hrecord, htype, htitle, hdetails, hrule, hreason⟩
    exact ⟨hrecord, _, _, ⟨_, _, ⟨_, _, ⟨_, _, ⟨_, _, rfl, htype, rfl⟩, ⟨_, htitle, rfl⟩, rfl⟩, hdetails, rfl⟩,
      ⟨_, hrule, rfl⟩, rfl⟩, ⟨_, hreason, rfl⟩, rfl⟩

theorem SuggestedAction.exists_decode_eq_error {document details : Json}
    (hpart : document.part? "details" 2 = some details) (hprice : ∀ d : PriceDetails, ¬d.IsWrittenIn details)
    (hnotify : ∀ d : NotifyDetails, ¬d.IsWrittenIn details) : ∃ e, decode document = .error e := by
  cases h : decode document with
  | error e => exact ⟨e, rfl⟩
  | ok a =>
    obtain ⟨part, hpart', hwritten⟩ := (decode_eq_ok_iff.mp h).details
    obtain rfl : details = part := Option.some.inj (hpart.symm.trans hpart')
    have hdetails := ActionDetails.decode_eq_ok_iff.mpr hwritten
    rw [ActionDetails.decode_eq_error hprice hnotify] at hdetails
    cases hdetails

theorem SuggestedAction.suggestedPrice?_eq_some_iff {a : SuggestedAction} {price : Decimal} :
    a.suggestedPrice? = some price ↔ ∃ d, a.details = .price d ∧ d.suggestedPrice = price := by
  unfold suggestedPrice?
  cases a.details <;> simp

/-- An action that is read has a price exactly if its details are the whole of a price, and then the price that is
written there, whatever its type. Other details are those of a notice, or the document is refused. Of the actions that
rules suggest exactly the price actions have a price, and so they are read back. -/
theorem suggestedPrice?_of_decode :
    (∀ document action, SuggestedAction.decode document = .ok action →
      ∃ details, document.part? "details" 2 = some details ∧
        (∀ price, action.suggestedPrice? = some price ↔
          ∃ d : PriceDetails, d.IsWrittenIn details ∧ d.suggestedPrice = price) ∧
        ∀ n, action.details = .notify n ↔ (∀ d : PriceDetails, ¬d.IsWrittenIn details) ∧ n.IsWrittenIn details) ∧
    (∀ document details, document.part? "details" 2 = some details → (∀ d : PriceDetails, ¬d.IsWrittenIn details) →
      (∀ n : NotifyDetails, ¬n.IsWrittenIn details) → ∃ e, SuggestedAction.decode document = .error e) ∧
    ∀ event sku rule action, suggestAction event sku rule = .ok action →
      (action.suggestedPrice? ≠ none ↔ action.type.IsPriceAction) ∧
        IsReadBack SuggestedAction.decode action.toJson action := by
  refine ⟨fun document action h => ?_, fun document details => SuggestedAction.exists_decode_eq_error, ?_⟩
  · obtain ⟨details, hpart, hwritten⟩ := (SuggestedAction.decode_eq_ok_iff.mp h).details
    refine ⟨details, hpart, fun price => ?_, fun n => ?_⟩
    · simp only [SuggestedAction.suggestedPrice?_eq_some_iff, hwritten.eq_iff, ActionDetails.isWrittenIn_price_iff]
    · rw [hwritten.eq_iff, ActionDetails.isWrittenIn_notify_iff]
  · intro event sku rule action h
    have hsuggests := suggests_of_suggestAction h
    rw [hsuggests.names.2.2]
    exact ⟨hsuggests.suggestedPrice?_ne_none_iff,
      .of_decode (fun _ hf => action.decode_rearranged hf) (action.isLegible_toJson 125)⟩

/-- A price whose details are an array, details without a text for the article, and a price that a rule suggests. -/
theorem suggestedPrice?_of_decode_array :
    let document (details : Json) : Json := .object [("details", details), ("reason", .string "Match"),
      ("ruleId", .string "match"), ("title", .string "Match competitor price"), ("type", .string "PRICE_MATCH")]
    let price : Json := .array [.string "sku-1", .ofInt 100, .string "95.00", .string "-5"]
    let unnamed : Json := .object [("delta", .string "-5"), ("skuId", .ofInt 1)]
    let event : Event := ⟨"sku-1", .priceDrop ⟨.ofNat 95, none, none⟩⟩
    let sku : Sku := ⟨none, .ofNat 80, .hundred, []⟩
    let rule : Rule := ⟨"match", "Match", .competitorPriceDrop, true, .compare .eq .absent .absent, ⟨.priceMatch, []⟩⟩
    (∃ action, SuggestedAction.decode (document price) = .ok action ∧
      ∃ d : PriceDetails, d.IsWrittenIn price ∧ action.suggestedPrice? = some d.suggestedPrice) ∧
    (∃ e, SuggestedAction.decode (document unnamed) = .error e) ∧
    ∃ action, suggestAction event sku rule = .ok action ∧ action.suggestedPrice? ≠ none ∧
      IsReadBack SuggestedAction.decode action.toJson action := by
  intro document price unnamed event sku rule
  obtain ⟨hread, hrefused, hsuggested⟩ := suggestedPrice?_of_decode
  refine ⟨?_, ?_, ?_⟩
  · let written : PriceDetails :=
      ⟨"sku-1", .hundred, ⟨9500, 2, by decide, by decide⟩, ⟨-5, 0, by decide, by decide⟩⟩
    let action : SuggestedAction := ⟨.priceMatch, "Match competitor price", .price written, "match", "Match"⟩
    have haction : SuggestedAction.decode (document price) = .ok action := by rfl
    obtain ⟨details, hdetails, hprice, -⟩ := hread _ action haction
    obtain rfl : price = details := Option.some.inj hdetails
    obtain ⟨d, hd, hsuggested⟩ := (hprice written.suggestedPrice).mp rfl
    exact ⟨action, haction, d, hd, congrArg some hsuggested.symm⟩
  · have hskuId (s : String) : unnamed.part? "skuId" 0 ≠ some (.string s) := by rintro ⟨⟩
    exact hrefused (document unnamed) unnamed rfl (fun d hd => hskuId _ hd.skuId) (fun n hn => hskuId _ hn.skuId)
  · let action : SuggestedAction := ⟨.priceMatch, "Match competitor price",
      .price ⟨"sku-1", .hundred, .ofNat 95, ⟨-5, 0, by decide, by decide⟩⟩, "match", "Match"⟩
    have haction : suggestAction event sku rule = .ok action := by decide +kernel
    obtain ⟨hpriced, hback⟩ := hsuggested event sku rule action haction
    exact ⟨action, haction, hpriced.mpr (.inl rfl), hback⟩

/-- The type does not decide: a price without its change is read as a notice, and a notice with all of a price has
one. -/
theorem suggestedPrice?_of_other_type :
    let document (type : ActionType) (details : List (String × Json)) : Json :=
      .object [("details", .object details), ("reason", .string "Match"), ("ruleId", .string "match"),
        ("title", .string "Match competitor price"), ("type", .string type.name)]
    let incomplete : List (String × Json) :=
      [("currentPrice", .string "100"), ("skuId", .string "sku-1"), ("suggestedPrice", .string "95")]
    let whole : List (String × Json) :=
      [("currentPrice", .string "100"), ("delta", .string "-5"), ("skuId", .string "sku-1"),
        ("suggestedPrice", .string "95")]
    (∃ action, SuggestedAction.decode (document .priceMatch incomplete) = .ok action ∧ action.type.IsPriceAction ∧
      action.suggestedPrice? = none) ∧
    ∃ action, SuggestedAction.decode (document .notify whole) = .ok action ∧ ¬action.type.IsPriceAction ∧
      action.suggestedPrice? = some (.ofNat 95) := by
  intro document incomplete whole
  let unpriced : SuggestedAction :=
    ⟨.priceMatch, "Match competitor price", .notify ⟨"sku-1", none, none, none⟩, "match", "Match"⟩
  let priced : SuggestedAction := ⟨.notify, "Match competitor price",
    .price ⟨"sku-1", .hundred, .ofNat 95, ⟨-5, 0, by decide, by decide⟩⟩, "match", "Match"⟩
  refine ⟨⟨unpriced, by rfl, .inl rfl, rfl⟩, priced, by rfl, ?_, rfl⟩
  rintro (h | h) <;> cases h

end Action

end Repricing
