import Mathlib.Data.List.Nodup
import Repricing.Policy.Resolve
import Repricing.Proofs.Percent

namespace Repricing

/-- What a policy file sets; without a file nothing is set. -/
inductive PolicySettings.ReadFrom (files : Files) : Option String → PolicySettings → Prop
  | absent : ReadFrom files none .empty
  | file {path text : String} {s : PolicySettings} (htext : files path = .ok text)
      (hsettings : ofText? text = some s) : ReadFrom files (some path) s

/-- The settings name no mode that is unknown. -/
def PolicySettings.NamesMode (s : PolicySettings) : Prop :=
  ∀ text, s.roundingMode = some text → ∃ mode, RoundingMode.ofText? text = some mode

/-- The flag if it is given, else the setting if there is one, else the standard. -/
def firstGiven {α : Type} (flag setting : Option α) (standard : α) : α := (flag.or setting).getD standard

/-- The policy of flags, settings and the standard policy, part by part. -/
def PolicyFlags.over (flags : PolicyFlags) (s : PolicySettings) : Policy where
  minMarginPct := firstGiven flags.minMarginPct s.minMarginPct Policy.standard.minMarginPct
  maxChangePct := firstGiven flags.maxChangePct s.maxChangePct Policy.standard.maxChangePct
  roundingMode :=
    firstGiven flags.roundingMode (s.roundingMode.bind RoundingMode.ofText?) Policy.standard.roundingMode

/-- What is wrong with flags over settings. -/
inductive PolicyFlags.HasProblem (flags : PolicyFlags) (s : PolicySettings) : PolicyError → Prop
  | unknownMode {path text : String} (hfile : flags.file = some path) (htext : s.roundingMode = some text)
      (hmode : RoundingMode.ofText? text = none) : HasProblem flags s (.unknownMode path text)
  | minMargin (h : ¬(0 ≤ (flags.over s).minMarginPct.toRat ∧ (flags.over s).minMarginPct.toRat < 100)) :
      HasProblem flags s (.unacceptable (.minMargin (flags.over s).minMarginPct))
  | maxChange (h : ¬0 ≤ (flags.over s).maxChangePct.toRat) :
      HasProblem flags s (.unacceptable (.maxChange (flags.over s).maxChangePct))

namespace Policy

variable {files : Files} {flags : PolicyFlags} {s : PolicySettings} {base policy : Policy} {text : String}

theorem exists_withSettings (flags : PolicyFlags) (hmode : s.NamesMode) :
    ∃ base, standard.withSettings s = .ok base ∧ base.withFlags flags = flags.over s := by
  unfold withSettings
  cases htext : s.roundingMode with
  | none => exact ⟨_, rfl, by simp [withFlags, PolicyFlags.over, firstGiven, Option.getD_or, htext]⟩
  | some text =>
    obtain ⟨mode, hmode⟩ := hmode text htext
    dsimp only
    rw [hmode]
    exact ⟨_, rfl, by simp [withFlags, PolicyFlags.over, firstGiven, Option.getD_or, htext, hmode]⟩

theorem withSettings_of_unknownMode (htext : s.roundingMode = some text) (hmode : RoundingMode.ofText? text = none) :
    standard.withSettings s = .error text := by
  simp [withSettings, htext, hmode, Except.map]

/-- Only what comes out of all layers is looked at. -/
theorem resolve_of_namesMode (hread : PolicySettings.ReadFrom files flags.file s) (hmode : s.NamesMode) :
    resolve files flags =
      match (flags.over s).faults with
      | [] => .ok (flags.over s)
      | found => .error (found.map .unacceptable) := by
  obtain ⟨base, hbase, hover⟩ := exists_withSettings flags hmode
  have hfile : ofFile files flags.file = .ok base := by
    generalize flags.file = path at hread
    cases hread with
    | absent =>
      cases hbase
      rfl
    | file htext hsettings => simp [ofFile, htext, hsettings, hbase]
  cases hfaults : (flags.over s).faults with
  | nil => simp [resolve, hfile, hover, hfaults]
  | cons fault rest => simp [resolve, hfile, hover, hfaults]

/-- An unknown mode is reported before anything else is looked at. -/
theorem resolve_of_unknownMode (hread : PolicySettings.ReadFrom files flags.file s) (htext : s.roundingMode = some text)
    (hmode : RoundingMode.ofText? text = none) :
    ∃ path, flags.file = some path ∧ resolve files flags = .error [.unknownMode path text] := by
  have hbase := withSettings_of_unknownMode htext hmode
  cases hpath : flags.file with
  | none =>
    rw [hpath] at hread
    cases hread
    cases htext
  | some path =>
    rw [hpath] at hread
    cases hread with
    | file hfile hsettings => exact ⟨path, rfl, by simp [resolve, ofFile, hpath, hfile, hsettings, hbase]⟩

theorem exists_readFrom_of_resolve (h : resolve files flags = .ok policy) :
    ∃ s, PolicySettings.ReadFrom files flags.file s := by
  cases hpath : flags.file with
  | none => exact ⟨.empty, .absent⟩
  | some path =>
    cases hfile : files path with
    | error fault => simp [resolve, ofFile, hpath, hfile] at h
    | ok text =>
      cases hsettings : PolicySettings.ofText? text with
      | none => simp [resolve, ofFile, hpath, hfile, hsettings] at h
      | some s => exact ⟨s, .file hfile hsettings⟩

theorem namesMode_or_unknown (s : PolicySettings) :
    s.NamesMode ∨ ∃ text, s.roundingMode = some text ∧ RoundingMode.ofText? text = none := by
  by_cases h : s.NamesMode
  · exact .inl h
  · simp only [PolicySettings.NamesMode, not_forall, not_exists] at h
    obtain ⟨text, htext, hmode⟩ := h
    exact .inr ⟨text, htext, Option.eq_none_iff_forall_ne_some.mpr hmode⟩

theorem resolve_eq_ok_iff :
    resolve files flags = .ok policy ↔
      ∃ s, PolicySettings.ReadFrom files flags.file s ∧ s.NamesMode ∧ (flags.over s).faults = [] ∧
        policy = flags.over s := by
  constructor
  · intro h
    obtain ⟨s, hread⟩ := exists_readFrom_of_resolve h
    rcases namesMode_or_unknown s with hmode | ⟨text, htext, hmode⟩
    · rw [resolve_of_namesMode hread hmode] at h
      split at h
      · next hfaults => exact ⟨s, hread, hmode, hfaults, (Except.ok.inj h).symm⟩
      · cases h
    · obtain ⟨path, -, hresolve⟩ := resolve_of_unknownMode hread htext hmode
      cases hresolve.symm.trans h
  · rintro ⟨s, hread, hmode, hfaults, rfl⟩
    rw [resolve_of_namesMode hread hmode, hfaults]

theorem hasProblem_iff_of_namesMode (hmode : s.NamesMode) {e : PolicyError} :
    flags.HasProblem s e ↔ ∃ fault ∈ (flags.over s).faults, e = .unacceptable fault := by
  simp only [mem_faults_iff]
  constructor
  · rintro (⟨-, htext, hnone⟩ | h | h)
    · obtain ⟨mode, hmode⟩ := hmode _ htext
      cases hnone.symm.trans hmode
    · exact ⟨_, .inl ⟨rfl, h⟩, rfl⟩
    · exact ⟨_, .inr ⟨rfl, h⟩, rfl⟩
  · rintro ⟨fault, ⟨rfl, h⟩ | ⟨rfl, h⟩, rfl⟩
    · exact .minMargin h
    · exact .maxChange h

end Policy

/-- A run has a policy exactly if its file, if there is one, can be read, names no unknown mode, and the percentages
that come out of all layers are in range; and the policy is then what comes out of them. What a flag sets may be
anything in the file. -/
theorem Policy.resolve_layers (files : Files) (flags : PolicyFlags) :
    (∀ policy, resolve files flags = .ok policy ↔
      ∃ s, PolicySettings.ReadFrom files flags.file s ∧ s.NamesMode ∧
        (0 ≤ policy.minMarginPct.toRat ∧ policy.minMarginPct.toRat < 100) ∧ 0 ≤ policy.maxChangePct.toRat ∧
        policy = flags.over s) ∧
    ∀ files' s s', PolicySettings.ReadFrom files flags.file s → PolicySettings.ReadFrom files' flags.file s' →
      s'.roundingMode = s.roundingMode →
      (flags.minMarginPct = none → s'.minMarginPct = s.minMarginPct) →
      (flags.maxChangePct = none → s'.maxChangePct = s.maxChangePct) →
      resolve files' flags = resolve files flags := by
  refine ⟨fun policy => ?_, fun files' s s' hread hread' hsame hmargin hchange => ?_⟩
  · rw [resolve_eq_ok_iff]
    refine exists_congr fun s => and_congr_right fun _ => and_congr_right fun _ => ?_
    rw [faults_eq_nil_iff, ← and_assoc]
    refine and_congr_left ?_
    rintro rfl
    rfl
  · have hover : flags.over s' = flags.over s := by
      have hmargin : flags.minMarginPct.or s'.minMarginPct = flags.minMarginPct.or s.minMarginPct := by
        cases h : flags.minMarginPct with
        | none => rw [hmargin h]
        | some d => rfl
      have hchange : flags.maxChangePct.or s'.maxChangePct = flags.maxChangePct.or s.maxChangePct := by
        cases h : flags.maxChangePct with
        | none => rw [hchange h]
        | some d => rfl
      simp only [PolicyFlags.over, firstGiven, hmargin, hchange, hsame]
    rcases namesMode_or_unknown s with hmode | ⟨text, htext, hmode⟩
    · have hmode' : s'.NamesMode := fun text htext => hmode text (hsame ▸ htext)
      rw [resolve_of_namesMode hread hmode, resolve_of_namesMode hread' hmode', hover]
    · obtain ⟨path, hpath, hresolve⟩ := resolve_of_unknownMode hread htext hmode
      obtain ⟨path', hpath', hresolve'⟩ := resolve_of_unknownMode hread' (hsame.trans htext) hmode
      obtain rfl : path = path' := Option.some.inj (hpath.symm.trans hpath')
      rw [hresolve, hresolve']

/-- A file with a margin that no price can keep, and a flag that sets another one. -/
theorem Policy.resolve_layers_overridden :
    let given (margin : String) : Files := fun _ =>
      .ok ("[guardrails]\nmin_margin_pct = " ++ margin ++ "\nmax_change_pct = 5\nrounding_mode = \"nearest-5\"\n")
    let flags : PolicyFlags := ⟨some "policy.toml", some (.ofNat 12), none, none⟩
    let set (margin : Nat) (h : margin < twoPow 96) : PolicySettings :=
      ⟨some (.ofNat margin h), some .five, some "nearest-5"⟩
    PolicySettings.ReadFrom (given "100") flags.file (set 100 (by decide)) ∧
      PolicySettings.ReadFrom (given "20") flags.file (set 20 (by decide)) ∧
      resolve (given "100") flags = .ok ⟨.ofNat 12, .five, .nearest5⟩ ∧
      resolve (given "20") flags = resolve (given "100") flags := by
  intro given flags set
  have hread : PolicySettings.ReadFrom (given "100") flags.file (set 100 (by decide)) := .file rfl (by decide +kernel)
  have hread' : PolicySettings.ReadFrom (given "20") flags.file (set 20 (by decide)) := .file rfl (by decide +kernel)
  have hmode : (set 100 (by decide)).NamesMode := by
    rintro text ⟨⟩
    exact ⟨.nearest5, by decide +kernel⟩
  refine ⟨hread, hread', ?_, (resolve_layers _ flags).2 _ _ _ hread hread' rfl ?_ ?_⟩
  · refine ((resolve_layers _ flags).1 _).mpr ⟨_, hread, hmode, ?_, ?_, by decide +kernel⟩
    · norm_num
    · simp [Decimal.five]
  · simp [flags]
  · simp [flags, set]

/-- A run that fails although its file can be read reports problems, each of them once: all there are, if the file names
no unknown mode, and otherwise the mode alone. -/
theorem Policy.resolve_problems (files : Files) (flags : PolicyFlags) (s : PolicySettings) (found : List PolicyError)
    (hread : PolicySettings.ReadFrom files flags.file s) (h : resolve files flags = .error found) :
    found ≠ [] ∧ found.Nodup ∧ (s.NamesMode → ∀ e, e ∈ found ↔ flags.HasProblem s e) ∧
      ∀ path text, flags.HasProblem s (.unknownMode path text) → found = [.unknownMode path text] := by
  rcases namesMode_or_unknown s with hmode | ⟨text, htext, hmode⟩
  · rw [resolve_of_namesMode hread hmode] at h
    have hproblem (e : PolicyError) : flags.HasProblem s e ↔ _ := hasProblem_iff_of_namesMode hmode
    split at h
    · cases h
    · next hne =>
      obtain rfl := Except.error.inj h
      refine ⟨by simpa using hne, ?_, fun _ e => ?_, fun path text hunknown => ?_⟩
      · exact (nodup_faults _).map fun a b hab => PolicyError.unacceptable.inj hab
      · simp [hproblem, eq_comm]
      · obtain ⟨fault, -, hfault⟩ := (hproblem _).mp hunknown
        cases hfault
  · obtain ⟨path, hpath, hresolve⟩ := resolve_of_unknownMode hread htext hmode
    obtain rfl := Except.error.inj (h.symm.trans hresolve)
    refine ⟨List.cons_ne_nil _ _, List.nodup_singleton _, fun hnames => ?_, fun path' text' hunknown => ?_⟩
    · obtain ⟨mode, hknown⟩ := hnames text htext
      cases hmode.symm.trans hknown
    · cases hunknown with
      | unknownMode hfile htext' _ =>
        obtain rfl : path = path' := Option.some.inj (hpath.symm.trans hfile)
        obtain rfl : text = text' := Option.some.inj (htext.symm.trans htext')
        rfl

/-- A margin of the file and a change of a flag, both out of range. -/
theorem Policy.resolve_problems_both :
    let files : Files := fun _ => .ok "[guardrails]\nmin_margin_pct = 100\nrounding_mode = \"none\"\n"
    let flags : PolicyFlags := ⟨some "policy.toml", none, some (-.one), none⟩
    let s : PolicySettings := ⟨some .hundred, none, some "none"⟩
    ∃ found, PolicySettings.ReadFrom files flags.file s ∧ resolve files flags = .error found ∧ found.Nodup ∧
      .unacceptable (.minMargin .hundred) ∈ found ∧ .unacceptable (.maxChange (-.one)) ∈ found := by
  intro files flags s
  have hread : PolicySettings.ReadFrom files flags.file s := .file rfl (by decide +kernel)
  have hmode : s.NamesMode := by
    rintro text ⟨⟩
    exact ⟨.none, by decide +kernel⟩
  have hresolve : resolve files flags =
      .error [.unacceptable (.minMargin .hundred), .unacceptable (.maxChange (-.one))] :=
    (resolve_of_namesMode hread hmode).trans (by decide +kernel)
  obtain ⟨-, hnodup, hproblems, -⟩ := resolve_problems files flags s _ hread hresolve
  refine ⟨_, hread, hresolve, hnodup, (hproblems hmode _).mpr (.minMargin ?_), (hproblems hmode _).mpr (.maxChange ?_)⟩
  · rw [← minMargin_fault_iff]
    decide
  · rw [← maxChange_fault_iff]
    decide

/-- A file with an unknown mode, and two flags out of range that are not reported. -/
theorem Policy.resolve_problems_unreported :
    let files : Files := fun _ => .ok "[guardrails]\nrounding_mode = \"bad\"\n"
    let flags : PolicyFlags := ⟨some "policy.toml", some .hundred, some (-.one), none⟩
    let s : PolicySettings := ⟨none, none, some "bad"⟩
    let found : List PolicyError := [.unknownMode "policy.toml" "bad"]
    PolicySettings.ReadFrom files flags.file s ∧ resolve files flags = .error found ∧
      (flags.HasProblem s (.unacceptable (.minMargin .hundred)) ∧ .unacceptable (.minMargin .hundred) ∉ found) ∧
      flags.HasProblem s (.unacceptable (.maxChange (-.one))) ∧ .unacceptable (.maxChange (-.one)) ∉ found := by
  intro files flags s found
  have hread : PolicySettings.ReadFrom files flags.file s := .file rfl (by decide +kernel)
  obtain ⟨path, hpath, hresolve⟩ := resolve_of_unknownMode hread rfl (by decide +kernel)
  obtain rfl := Option.some.inj hpath
  refine ⟨hread, hresolve, ⟨.minMargin ?_, by simp [found]⟩, .maxChange ?_, by simp [found]⟩
  · rw [← minMargin_fault_iff]
    decide
  · rw [← maxChange_fault_iff]
    decide

end Repricing
