import Repricing.Proofs.Decimal.Text
import Repricing.Proofs.Document.Arrangement
import Repricing.Proofs.Document.Legible
import Repricing.Proofs.Traversal
import Repricing.Recommendation

namespace Repricing

open Json

section Parts

variable {f : Json → Json}

theorem decode_text (hf : Rearranges f) (s : String) : Decoder.text (f (.string s)) = .ok s := by
  rw [hf.string]
  rfl

theorem decode_bool (hf : Rearranges f) (b : Bool) : Decoder.bool (f (.bool b)) = .ok b := by
  rw [hf.bool]
  rfl

theorem decode_decimal (hf : Rearranges f) (d : Decimal) : Decoder.decimal (f (.string d.toText)) = .ok d := by
  rw [hf.string]
  simp [Decoder.decimal, d.ofText?_toText]

theorem decode_int64 (hf : Rearranges f) (n : Int64) : Decoder.int64 (f (.ofInt n.toInt)) = .ok n := by
  have hrange : IsInt64 n.toInt := by
    have := n.le_toInt
    have := n.toInt_lt
    unfold IsInt64
    omega
  rw [Json.ofInt, hf.number]
  simp [Decoder.int64, hrange]

theorem decode_texts (hf : Rearranges f) (texts : List String) :
    Decoder.items Decoder.text (f (.array (texts.map .string))) = .ok texts := by
  rw [hf.array, Decoder.items, mapM_eq_ok_iff, List.forall₂_map_left_iff, List.forall₂_map_left_iff]
  exact List.forall₂_same.mpr fun s _ => decode_text hf s

end Parts

section Event

variable {f : Json → Json}

theorem PriceDrop.decode_rearranged (hf : Rearranges f) (r : PriceDrop) :
    PriceDrop.shape.decode .buffered (f (Payload.priceDrop r).toJson) = .ok r := by
  obtain ⟨newPrice, oldPrice, competitor⟩ := r
  refine RecordShape.decode_of_reads hf ?_ .buffered
  refine .more (.more (.more (.none PriceDrop.mk) (.required ?_) (by decide)) (.optional rfl ?_) (by decide))
    (.optional rfl ?_) (by decide)
  · exact decode_decimal hf newPrice
  · exact decode_decimal hf
  · exact decode_text hf

theorem CostIncrease.decode_rearranged (hf : Rearranges f) (r : CostIncrease) :
    CostIncrease.shape.decode .buffered (f (Payload.costIncrease r).toJson) = .ok r := by
  obtain ⟨oldCost, newCost, supplier⟩ := r
  refine RecordShape.decode_of_reads hf ?_ .buffered
  refine .more (.more (.more (.none CostIncrease.mk) (.required ?_) (by decide)) (.required ?_) (by decide))
    (.optional rfl ?_) (by decide)
  · exact decode_decimal hf oldCost
  · exact decode_decimal hf newCost
  · exact decode_text hf

theorem StockLow.decode_rearranged (hf : Rearranges f) (r : StockLow) :
    StockLow.shape.decode .buffered (f (Payload.stockLow r).toJson) = .ok r := by
  obtain ⟨available, threshold⟩ := r
  refine RecordShape.decode_of_reads hf ?_ .buffered
  refine .more (.more (.none StockLow.mk) (.required ?_) (by decide)) (.required ?_) (by decide)
  · exact decode_int64 hf available
  · exact decode_int64 hf threshold

theorem Payload.decode_rearranged (hf : Rearranges f) (p : Payload) : Payload.decode p.type (f p.toJson) = .ok p := by
  cases p with
  | priceDrop r => exact congrArg (Except.map priceDrop) (PriceDrop.decode_rearranged hf r)
  | costIncrease r => exact congrArg (Except.map costIncrease) (CostIncrease.decode_rearranged hf r)
  | stockLow r => exact congrArg (Except.map stockLow) (StockLow.decode_rearranged hf r)

theorem decodeType_name (type : EventType) : Event.decodeType (.string type.name) = .ok type := by
  cases type <;> rfl

theorem Event.reads_shape (hf : Rearranges f) (e : Event) :
    (shape e.type).fields.Reads f [("skuId", .string e.skuId), ("payload", e.payload.toJson)] e := by
  refine .more (.more (.none Event.mk) (.required ?_) ?_) (.required ?_) ?_
  · exact decode_text hf e.skuId
  · simp [Fields.none]
  · exact e.payload.decode_rearranged hf
  · simp [Fields.more, Fields.none, Fields.required, Fields.field]

/-- The type of an event stands beside its fields, and decides how they are read. -/
theorem Event.decode_rearranged (hf : Rearranges f) (e : Event) : Event.decode (f e.toJson) = .ok e := by
  obtain ⟨members, hmembers, hholds⟩ := hf.object
    [("type", .string e.type.name), ("skuId", .string e.skuId), ("payload", e.payload.toJson)] (by simp)
  have htag : members.lookup "type" = some (.string e.type.name) := by
    simp [hholds "type", hf.string]
  have hshape : (shape e.type).ofMembers members = .ok e := by
    have hnames : (shape e.type).fields.names = ["skuId", "payload"] := rfl
    have htype : "type" ∉ (shape e.type).fields.names := by simp [hnames]
    refine RecordShape.ofMembers_of_reads rfl (e.reads_shape hf) fun name hname => ?_
    rw [hholds, List.lookup_cons, beq_eq_false_iff_ne.mpr (ne_of_mem_of_not_mem hname htype)]
  rw [toJson, hmembers, decode]
  simp only [htag, decodeType_name]
  exact hshape

end Event

section Article

variable {f : Json → Json}

/-- Without attributes none are written, and none are read. -/
theorem reads_attributes (attributes : List (String × Json)) (h : f (.object attributes) = .object attributes) :
    (Fields.defaulted "attributes" Decoder.members []).Reads f
      (if attributes.isEmpty then [] else [("attributes", .object attributes)]) attributes := by
  cases attributes with
  | nil => exact .absent _
  | cons m rest =>
    refine .field _ _ ?_
    rw [h]
    rfl

theorem Sku.decode_rearranged (hf : Rearranges f) (s : Sku)
    (hattributes : f (.object s.attributes) = .object s.attributes) : Sku.decode (f s.toJson) = .ok s := by
  have hread : shape.fields.Reads f (optionalMember "id" .string s.id ++ [("cost", .string s.cost.toText)]
      ++ [("currentPrice", .string s.currentPrice.toText)]
      ++ if s.attributes.isEmpty then [] else [("attributes", .object s.attributes)]) s := by
    refine .more (.more (.more (.more (.none Sku.mk) (.optional rfl ?_) (by decide)) (.required ?_) (by decide))
      (.required ?_) (by decide)) (reads_attributes s.attributes hattributes) (by decide)
    · exact decode_text hf
    · exact decode_decimal hf s.cost
    · exact decode_decimal hf s.currentPrice
  simpa [toJson, decode] using RecordShape.decode_of_reads hf hread .direct

theorem Policy.decode_rearranged (hf : Rearranges f) (p : Policy) : Policy.decode (f p.toJson) = .ok p := by
  obtain ⟨minMarginPct, maxChangePct, roundingMode⟩ := p
  refine RecordShape.decode_of_reads hf ?_ .direct
  refine .more (.more (.more (.none Policy.mk) (.required ?_) (by decide)) (.required ?_) (by decide))
    (.required ?_) (by decide)
  · exact decode_decimal hf minMarginPct
  · exact decode_decimal hf maxChangePct
  · rw [hf.string]
    cases roundingMode <;> rfl

end Article

section Action

variable {f : Json → Json}

theorem ActionDetails.decode_price (hf : Rearranges f) (d : PriceDetails) :
    PriceDetails.shape.decode .buffered (f (price d).toJson) = .ok d := by
  obtain ⟨skuId, currentPrice, suggestedPrice, delta⟩ := d
  refine RecordShape.decode_of_reads hf ?_ .buffered
  refine .more (.more (.more (.more (.none PriceDetails.mk) (.required ?_) (by decide)) (.required ?_) (by decide))
    (.required ?_) (by decide)) (.required ?_) (by decide)
  · exact decode_text hf skuId
  · exact decode_decimal hf currentPrice
  · exact decode_decimal hf suggestedPrice
  · exact decode_decimal hf delta

theorem ActionDetails.reads_notify (hf : Rearranges f) (d : NotifyDetails) :
    NotifyDetails.shape.fields.Reads f ([("skuId", .string d.skuId)]
      ++ optionalMember "available" (fun n : Int64 => Json.ofInt n.toInt) d.available
      ++ optionalMember "threshold" (fun n : Int64 => Json.ofInt n.toInt) d.threshold
      ++ optionalMember "message" .string d.message) d := by
  refine .more (.more (.more (.more (.none NotifyDetails.mk) (.required ?_) (by decide)) (.optional rfl ?_)
    (by decide)) (.optional rfl ?_) (by decide)) (.optional rfl ?_) (by decide)
  · exact decode_text hf d.skuId
  · exact decode_int64 hf
  · exact decode_int64 hf
  · exact decode_text hf

theorem ActionDetails.decode_notify (hf : Rearranges f) (d : NotifyDetails) :
    NotifyDetails.shape.decode .buffered (f (notify d).toJson) = .ok d :=
  RecordShape.decode_of_reads hf (reads_notify hf d) .buffered

/-- The details of a notice are not those of a price: nothing is written under `delta`. -/
theorem ActionDetails.decode_price_ne_ok (hf : Rearranges f) (d : NotifyDetails) (other : PriceDetails) :
    PriceDetails.shape.decode .buffered (f (notify d).toJson) ≠ .ok other := by
  intro h
  have hreads := reads_notify hf d
  obtain ⟨members, hmembers, hholds⟩ := hf.object _ hreads.nodup
  have hdelta : members.lookup "delta" = none := by
    rw [hholds, lookup_eq_none_of_not_mem fun hmem => absurd (hreads.subset hmem) (by decide)]
    rfl
  rw [toJson, hmembers, RecordShape.decode_object_of_open rfl] at h
  cases hread : PriceDetails.shape.fields.ofMembers members with
  | error e =>
    rw [hread] at h
    cases h
  | ok d' =>
    obtain ⟨delta, hlast⟩ := Fields.exists_of_more_eq_ok hread
    rw [Fields.ofMembers_required_of_absent hdelta] at hlast
    cases hlast

theorem ActionDetails.decode_rearranged (hf : Rearranges f) (d : ActionDetails) : decode (f d.toJson) = .ok d := by
  cases d with
  | price d => rw [decode, decode_price hf]
  | notify d =>
    unfold decode
    split
    · rename_i other hother
      exact absurd hother (decode_price_ne_ok hf d other)
    · rw [decode_notify hf]

theorem SuggestedAction.decode_rearranged (hf : Rearranges f) (a : SuggestedAction) :
    SuggestedAction.decode (f a.toJson) = .ok a := by
  refine RecordShape.decode_of_reads hf ?_ .direct
  refine .more (.more (.more (.more (.more (.none SuggestedAction.mk) (.required ?_) (by decide)) (.required ?_)
    (by decide)) (.required ?_) (by decide)) (.required ?_) (by decide)) (.required ?_) (by decide)
  · rw [hf.string]
    cases a.type <;> rfl
  · exact decode_text hf a.title
  · exact a.details.decode_rearranged hf
  · exact decode_text hf a.ruleId
  · exact decode_text hf a.reason

end Action

section Verdict

variable {f : Json → Json}

theorem GuardrailResult.decode_rearranged (hf : Rearranges f) (r : GuardrailResult) :
    GuardrailResult.decode (f r.toJson) = .ok r := by
  have hread : shape.fields.Reads f ([("safetyStatus", .string r.safetyStatus.name)]
      ++ optionalMember "safetyReason" (fun reason : BlockReason => .string reason.message) r.safetyReason
      ++ [("suggestedPriceOriginal", .string r.suggestedPriceOriginal.toText)]
      ++ [("suggestedPriceFinal", .string r.suggestedPriceFinal.toText)] ++ [("adjusted", .bool r.adjusted)]
      ++ [("reasons", .array (r.reasons.map .string))]
      ++ optionalMember "marginPctFinal" (fun d : Decimal => .string d.toText) r.marginPctFinal) r := by
    refine .more (.more (.more (.more (.more (.more (.more (.none GuardrailResult.mk) (.required ?_) (by decide))
      (.optional rfl ?_) (by decide)) (.required ?_) (by decide)) (.required ?_) (by decide)) (.required ?_)
      (by decide)) (.required ?_) (by decide)) (.optional rfl ?_) (by decide)
    · rw [hf.string]
      cases r.safetyStatus <;> rfl
    · intro reason
      rw [hf.string]
      cases reason <;> rfl
    · exact decode_decimal hf r.suggestedPriceOriginal
    · exact decode_decimal hf r.suggestedPriceFinal
    · exact decode_bool hf r.adjusted
    · exact decode_texts hf r.reasons
    · exact decode_decimal hf
  simpa [toJson, decode] using RecordShape.decode_of_reads hf hread .direct

theorem Recommendation.decode_rearranged (hf : Rearranges f) (r : Recommendation) :
    Recommendation.decode (f r.toJson) = .ok r := by
  refine RecordShape.decode_of_reads hf ?_ .direct
  refine .more (.more (.none Recommendation.mk) (.required ?_) (by decide)) (.field _ _ ?_) (by decide)
  · exact r.action.decode_rearranged hf
  · cases r.guardrail with
    | none =>
      rw [hf.null]
      rfl
    | some result => exact Decoder.optional_eq_ok rfl (result.decode_rearranged hf)

end Verdict

/-- The value is read from its document, as it is built and as a tree holds it, and the tree is read from the text of
the document, on one line or laid out. -/
structure IsReadBack {α : Type} (decode : Decoder α) (document : Json) (a : α) : Prop where
  built : decode document = .ok a
  tree : decode document.sorted = .ok a
  compact : Json.ofText document.compact = .ok document.sorted
  pretty : Json.ofText document.pretty = .ok document.sorted

theorem IsReadBack.of_decode {α : Type} {decode : Decoder α} {document : Json} {a : α}
    (h : ∀ f, Rearranges f → decode (f document) = .ok a) (hlegible : IsLegible 127 document) :
    IsReadBack decode document a where
  built := h id rearranges_id
  tree := h sorted rearranges_sorted
  compact := ofText_compact hlegible
  pretty := ofText_pretty hlegible

/-- Every document comes back as the value that it was written from. In the tree of an article the attributes stand in
ascending order, as they do in the article; its text can be read if that of the attributes can. -/
theorem decode_toJson :
    (∀ e : Event, IsReadBack Event.decode e.toJson e) ∧
      (∀ s : Sku, Sku.decode s.toJson = .ok s ∧
        ((Json.object s.attributes).sorted = .object s.attributes → Sku.decode s.toJson.sorted = .ok s ∧
          (AreLegible 125 s.attributes → IsReadBack Sku.decode s.toJson s))) ∧
      (∀ p : Policy, IsReadBack Policy.decode p.toJson p) ∧
      (∀ a : SuggestedAction, IsReadBack SuggestedAction.decode a.toJson a) ∧
      (∀ r : GuardrailResult, IsReadBack GuardrailResult.decode r.toJson r) ∧
      ∀ r : Recommendation, IsReadBack Recommendation.decode r.toJson r := by
  refine ⟨fun e => ?_, fun s => ?_, fun p => ?_, fun a => ?_, fun r => ?_, fun r => ?_⟩
  · exact .of_decode (fun _ hf => e.decode_rearranged hf) (e.isLegible_toJson 125)
  · have hbuilt : Sku.decode s.toJson = .ok s := s.decode_rearranged rearranges_id rfl
    refine ⟨hbuilt, fun hsorted => ?_⟩
    have htree : Sku.decode s.toJson.sorted = .ok s := s.decode_rearranged rearranges_sorted hsorted
    refine ⟨htree, fun h => ⟨hbuilt, htree, ?_, ?_⟩⟩
    · exact ofText_compact (Sku.isLegible_toJson h)
    · exact ofText_pretty (Sku.isLegible_toJson h)
  · exact .of_decode (fun _ hf => p.decode_rearranged hf) (p.isLegible_toJson 126)
  · exact .of_decode (fun _ hf => a.decode_rearranged hf) (a.isLegible_toJson 125)
  · exact .of_decode (fun _ hf => r.decode_rearranged hf) (r.isLegible_toJson 125)
  · exact .of_decode (fun _ hf => r.decode_rearranged hf) (r.isLegible_toJson 124)

/-- An article without an id, whose attributes hold nulls beside and inside of other documents. -/
theorem decode_toJson_nulls :
    let s : Sku :=
      ⟨none, .ofNat 80, .hundred,
        [("brand", .null), ("size", .object [("eu", .array [.null, .ofInt 42]), ("uk", .null)])]⟩
    (Json.object s.attributes).sorted = .object s.attributes ∧ AreLegible 125 s.attributes ∧
      IsReadBack Sku.decode s.toJson s := by
  intro s
  have hsorted : (Json.object s.attributes).sorted = .object s.attributes := by rfl
  have hlegible : AreLegible 125 s.attributes := by
    have hnumber : IsLegible 123 (.ofInt 42) := .number 123 (isLegible_integer (by decide) (by decide))
    simp [s, hnumber]
  exact ⟨hsorted, hlegible, ((decode_toJson.2.1 s).2 hsorted).2 hlegible⟩

end Repricing
