import Mathlib.Data.List.Forall2
import Telemetry.Proofs.Definition.Labels
import Telemetry.Proofs.Number.Decimal
import Telemetry.Proofs.Text.Blank
import Telemetry.Proofs.Text.Case

/-!
# Which definitions are accepted

The checks of a definition as written are a list, `RawDefinition.checks`, and each of them says for
itself what fails it and with which error (`RawDefinition.Fails`). Reading a definition makes these
checks one after the other: `RawDefinition.Makes` relates a step of the reader to the checks that it
makes, and one lemma for sequences (`RawDefinition.Makes.bind`) carries it from the steps to the
whole.

So a definition is accepted exactly if it is well formed, the error of another one is that of the
first check that it fails, and an accepted definition has the columns, labels and durations that it
should have (`Definition.ofRaw_accepts`).
-/

namespace Telemetry

/-! ## Keys in any letter case -/

namespace KeyMap

variable {α : Type} {m : KeyMap α} {name : String}

/-- The value is found under the name: its key is the name in small letters, and that of no later
entry is. -/
def IsFound (m : KeyMap α) (name : String) (value : α) : Prop :=
  ∃ before key after, m = before ++ (key, value) :: after ∧ Text.lower key = name ∧
    ∀ e ∈ after, Text.lower e.1 ≠ name

/-- No key is the name in small letters. -/
def IsMissing (m : KeyMap α) (name : String) : Prop := ∀ e ∈ m, Text.lower e.1 ≠ name

theorem getFolded?_eq_none_iff : m.getFolded? name = none ↔ m.IsMissing name := by
  rw [getFolded?, Option.map_eq_none_iff, List.find?_eq_none]
  constructor
  · exact fun h e he heq ↦ h e (List.mem_reverse.2 he) (beq_iff_eq.2 heq)
  · exact fun h e he heq ↦ h e (List.mem_reverse.1 he) (beq_iff_eq.1 heq)

theorem getFolded?_eq_some_iff {value : α} :
    m.getFolded? name = some value ↔ m.IsFound name value := by
  rw [getFolded?, Keyed.map_find?_eq_some_iff (p := fun key ↦ Text.lower key == name)]
  simp only [beq_iff_eq, beq_eq_false_iff_ne]
  constructor
  · rintro ⟨later, key, earlier, heq, hkey, hlater⟩
    refine ⟨earlier.reverse, key, later.reverse, ?_, hkey, fun e he ↦ ?_⟩
    · rw [← List.reverse_reverse m, heq]
      simp
    · exact hlater e (List.mem_reverse.1 he)
  · rintro ⟨earlier, key, later, rfl, hkey, hlater⟩
    exact ⟨later.reverse, key, earlier.reverse, by simp, hkey,
      fun e he ↦ hlater e (List.mem_reverse.1 he)⟩

end KeyMap

namespace MetricKind

theorem read_eq_ok_iff {s : String} {kind : MetricKind} :
    read s = .ok kind ↔ Text.lower (Text.trim s) = kind.text := by
  rw [read]
  split
  · next h => rw [h, Except.ok.injEq]; cases kind <;> decide
  · next hgauge =>
    split
    · next h => rw [h, Except.ok.injEq]; cases kind <;> decide
    · next hcounter =>
      split
      · next h => rw [h, Except.ok.injEq]; cases kind <;> decide
      · next hhistogram =>
        refine ⟨nofun, fun h ↦ ?_⟩
        cases kind with
        | gauge => exact absurd h hgauge
        | counter => exact absurd h hcounter
        | histogram => exact absurd h hhistogram

/-- A word is refused as it was understood. -/
theorem eq_of_read_eq_error {s word : String} (h : read s = .error word) :
    word = Text.lower (Text.trim s) := by
  rw [read] at h
  split at h
  · cases h
  · split at h
    · cases h
    · split at h
      · cases h
      · exact (Except.error.inj h).symm

end MetricKind

/-! ## What is checked -/

namespace RawDefinition

/-- The column has the kind that its type names, or is a gauge if it has no type. -/
inductive HasKind (raw : RawDefinition) (column : String) : MetricKind → Prop
  | written {word : String} {kind : MetricKind} (hfound : raw.kinds.IsFound column word)
      (hword : Text.lower (Text.trim word) = kind.text) : HasKind raw column kind
  | missing (hmissing : raw.kinds.IsMissing column) : HasKind raw column .gauge

/-- The duration that is written for a field. -/
def duration (raw : RawDefinition) : DurationField → Option String
  | .queryTimeout => raw.queryTimeout
  | .scrapeInterval => raw.scrapeInterval

/-- The text is a duration: a count of seconds, or a span with its units. -/
inductive IsDuration (written : String) : Duration → Prop
  | seconds {n : Nat} (h : Decimal.IsUnsigned 64 (Text.trimChars written.toList) n) :
      IsDuration written (.ofSeconds n)
  | span {d : Duration} (h : Duration.readWithUnits (Text.trim written) = .ok d) :
      IsDuration written d

/-- The definition is well formed. -/
structure IsWellFormed (raw : RawDefinition) : Prop where
  request : ¬ Text.OnlyBlanks raw.request
  columns : raw.help ≠ []
  kinds : ∀ e ∈ raw.help, ∃ kind, raw.HasKind (Text.lower e.1) kind
  buckets : ∀ e ∈ raw.help, raw.HasKind (Text.lower e.1) .histogram →
    ∃ bounds, raw.buckets.IsFound (Text.lower e.1) bounds
  durations : ∀ field written, raw.duration field = some written →
    Text.OnlyBlanks written ∨ ∃ d, IsDuration written d

/-- A check of a definition. -/
inductive Check where
  | request
  | columns
  | kind (column : String)
  | buckets (column : String)
  | duration (field : DurationField)

/-- The checks of a column: its type before its buckets. -/
def columnChecks (e : String × String) : List Check :=
  [.kind (Text.lower e.1), .buckets (Text.lower e.1)]

/-- The checks of a definition in their order. -/
def checks (raw : RawDefinition) : List Check :=
  .request :: .columns :: (raw.help.flatMap columnChecks ++
    [.duration .queryTimeout, .duration .scrapeInterval])

/-- What fails a check, and the error for it. -/
inductive Fails (raw : RawDefinition) : Check → DefinitionError → Prop
  | request (h : Text.OnlyBlanks raw.request) :
      Fails raw .request (.missingRequest (Text.trim raw.context))
  | columns (h : raw.help = []) : Fails raw .columns (.missingColumns (Text.trim raw.context))
  | kind {column word : String} (hfound : raw.kinds.IsFound column word)
      (hword : ∀ kind : MetricKind, Text.lower (Text.trim word) ≠ kind.text) :
      Fails raw (.kind column)
        (.unknownType (Text.trim raw.context) column (Text.lower (Text.trim word)))
  | buckets {column : String} (hkind : raw.HasKind column .histogram)
      (hmissing : raw.buckets.IsMissing column) :
      Fails raw (.buckets column) (.missingBuckets (Text.trim raw.context) column)
  | duration {field : DurationField} {written : String} {fault : Duration.Fault}
      (hwritten : raw.duration field = some written) (hblank : ¬ Text.OnlyBlanks written)
      (hseconds : ∀ n, ¬ Decimal.IsUnsigned 64 (Text.trimChars written.toList) n)
      (hspan : Duration.readWithUnits (Text.trim written) = .error fault) :
      Fails raw (.duration field)
        (.invalidDuration (Text.trim raw.context) field (Text.trim written) fault)

/-- Nothing fails the check. -/
def Passes (raw : RawDefinition) (check : Check) : Prop := ∀ e, ¬ raw.Fails check e

/-- The first of the checks that fails does so with the error. -/
def FailsFirst (raw : RawDefinition) (checks : List Check) (e : DefinitionError) : Prop :=
  ∃ before check after, checks = before ++ check :: after ∧
    (∀ earlier ∈ before, raw.Passes earlier) ∧ raw.Fails check e

variable {raw : RawDefinition} {column : String} {kind : MetricKind} {e : DefinitionError}

/-! ## The check that fails first -/

theorem FailsFirst.of_fails {check : Check} {checks : List Check} (h : raw.Fails check e) :
    raw.FailsFirst (check :: checks) e := ⟨[], check, checks, rfl, nofun, h⟩

theorem FailsFirst.append {checks : List Check} (h : raw.FailsFirst checks e)
    (others : List Check) : raw.FailsFirst (checks ++ others) e := by
  obtain ⟨before, check, after, rfl, hbefore, hfails⟩ := h
  exact ⟨before, check, after ++ others, by simp, hbefore, hfails⟩

theorem FailsFirst.behind {checks others : List Check} (h : raw.FailsFirst checks e)
    (hothers : ∀ check ∈ others, raw.Passes check) : raw.FailsFirst (others ++ checks) e := by
  obtain ⟨before, check, after, rfl, hbefore, hfails⟩ := h
  refine ⟨others ++ before, check, after, by simp, fun earlier hearlier ↦ ?_, hfails⟩
  exact (List.mem_append.1 hearlier).elim (hothers earlier) (hbefore earlier)

/-! ## The columns -/

theorem hasKind_iff_of_isFound {word : String} (h : raw.kinds.IsFound column word) :
    raw.HasKind column kind ↔ Text.lower (Text.trim word) = kind.text := by
  refine ⟨fun hkind ↦ ?_, .written h⟩
  rw [← KeyMap.getFolded?_eq_some_iff] at h
  cases hkind with
  | written hother hword =>
    rw [KeyMap.getFolded?_eq_some_iff.2 hother, Option.some.injEq] at h
    rwa [← h]
  | missing hmissing =>
    rw [KeyMap.getFolded?_eq_none_iff.2 hmissing] at h
    cases h

theorem hasKind_iff_of_isMissing (h : raw.kinds.IsMissing column) :
    raw.HasKind column kind ↔ .gauge = kind := by
  constructor
  · intro hkind
    cases hkind with
    | written hfound =>
      rw [← KeyMap.getFolded?_eq_none_iff, KeyMap.getFolded?_eq_some_iff.2 hfound] at h
      cases h
    | missing => rfl
  · rintro rfl
    exact .missing h

theorem kindOf_eq_ok_iff (context : String) :
    Definition.kindOf context raw column = .ok kind ↔ raw.HasKind column kind := by
  rw [Definition.kindOf]
  cases hfound : raw.kinds.getFolded? column with
  | none =>
    rw [hasKind_iff_of_isMissing (KeyMap.getFolded?_eq_none_iff.1 hfound)]
    dsimp only
    rw [Except.ok.injEq]
  | some word =>
    rw [hasKind_iff_of_isFound (KeyMap.getFolded?_eq_some_iff.1 hfound),
      ← MetricKind.read_eq_ok_iff]
    dsimp only
    cases hread : MetricKind.read word with
    | ok kind' =>
      dsimp only
      rw [Except.ok.injEq, Except.ok.injEq]
    | error other => exact ⟨nofun, nofun⟩

theorem kindOf_eq_error_iff :
    Definition.kindOf (Text.trim raw.context) raw column = .error e ↔
      raw.Fails (.kind column) e := by
  rw [Definition.kindOf]
  constructor
  · intro h
    split at h
    · cases h
    · next word hfound =>
      split at h
      · cases h
      · next other hread =>
        rw [← Except.error.inj h, MetricKind.eq_of_read_eq_error hread]
        refine .kind (KeyMap.getFolded?_eq_some_iff.1 hfound) fun kind hword ↦ ?_
        rw [MetricKind.read_eq_ok_iff.2 hword] at hread
        cases hread
  · intro h
    cases h with
    | @kind _ word hfound hword =>
      rw [KeyMap.getFolded?_eq_some_iff.2 hfound]
      dsimp only
      cases hread : MetricKind.read word with
      | ok kind => exact absurd (MetricKind.read_eq_ok_iff.1 hread) (hword kind)
      | error other => rw [MetricKind.eq_of_read_eq_error hread]

theorem passes_kind_iff : raw.Passes (.kind column) ↔ ∃ kind, raw.HasKind column kind := by
  rw [Passes]
  simp only [← kindOf_eq_error_iff, ← kindOf_eq_ok_iff (Text.trim raw.context)]
  cases Definition.kindOf (Text.trim raw.context) raw column with
  | ok kind => exact iff_of_true nofun ⟨kind, rfl⟩
  | error e => exact iff_of_false (fun h ↦ h e rfl) nofun

theorem passes_buckets_iff : raw.Passes (.buckets column) ↔
    (raw.HasKind column .histogram → ∃ bounds, raw.buckets.IsFound column bounds) := by
  constructor
  · intro h hkind
    cases hfound : raw.buckets.getFolded? column with
    | none => exact absurd (.buckets hkind (KeyMap.getFolded?_eq_none_iff.1 hfound)) (h _)
    | some bounds => exact ⟨bounds, KeyMap.getFolded?_eq_some_iff.1 hfound⟩
  · intro h e hfails
    cases hfails with
    | buckets hkind hmissing =>
      obtain ⟨bounds, hfound⟩ := h hkind
      rw [← KeyMap.getFolded?_eq_none_iff, KeyMap.getFolded?_eq_some_iff.2 hfound] at hmissing
      cases hmissing

/-- A check fails with one error only. -/
theorem Fails.unique {check : Check} {e e' : DefinitionError} (h : raw.Fails check e)
    (h' : raw.Fails check e') : e = e' := by
  cases h with
  | request => cases h'; rfl
  | columns => cases h'; rfl
  | kind hfound hword =>
    have hkind := kindOf_eq_error_iff.2 (.kind hfound hword)
    rw [kindOf_eq_error_iff.2 h'] at hkind
    exact (Except.error.inj hkind).symm
  | buckets => cases h'; rfl
  | duration hwritten _ _ hspan =>
    cases h' with
    | duration hwritten' _ _ hspan' =>
      rw [hwritten, Option.some.injEq] at hwritten'
      subst hwritten'
      rw [hspan, Except.error.injEq] at hspan'
      rw [hspan']

/-- Behind a check that passes, the first that fails comes later. -/
theorem failsFirst_cons_iff {check : Check} {checks : List Check} :
    raw.FailsFirst (check :: checks) e ↔
      raw.Fails check e ∨ (raw.Passes check ∧ raw.FailsFirst checks e) := by
  constructor
  · rintro ⟨before, failing, after, heq, hbefore, hfails⟩
    cases before with
    | nil =>
      obtain ⟨rfl, -⟩ := List.cons.inj heq
      exact .inl hfails
    | cons first before =>
      obtain ⟨rfl, rfl⟩ := List.cons.inj heq
      obtain ⟨hpass, hbefore⟩ := List.forall_mem_cons.1 hbefore
      exact .inr ⟨hpass, before, failing, after, rfl, hbefore, hfails⟩
  · rintro (h | ⟨hpass, h⟩)
    · exact .of_fails h
    · obtain ⟨before, failing, after, rfl, hbefore, hfails⟩ := h
      exact ⟨check :: before, failing, after, rfl, List.forall_mem_cons.2 ⟨hpass, hbefore⟩, hfails⟩

theorem FailsFirst.unique {checks : List Check} {e' : DefinitionError}
    (h : raw.FailsFirst checks e) (h' : raw.FailsFirst checks e') : e = e' := by
  induction checks with
  | nil =>
    obtain ⟨before, check, after, heq, -⟩ := h
    cases before <;> cases heq
  | cons check checks ih =>
    rcases failsFirst_cons_iff.1 h with hfails | ⟨hpass, hlater⟩
    · rcases failsFirst_cons_iff.1 h' with hfails' | ⟨hpass, -⟩
      · exact hfails.unique hfails'
      · exact absurd hfails (hpass e)
    · rcases failsFirst_cons_iff.1 h' with hfails' | ⟨-, hlater'⟩
      · exact absurd hfails' (hpass e')
      · exact ih hlater hlater'

/-! ## The durations -/

theorem durationOf_of_onlyBlanks {context written : String} (h : Text.OnlyBlanks written)
    (field : DurationField) : Definition.durationOf context field (some written) = .ok none := by
  rw [Definition.durationOf, Text.trim_eq_empty_iff.2 h]
  rfl

theorem durationOf_of_not_onlyBlanks {context written : String} (h : ¬ Text.OnlyBlanks written)
    (field : DurationField) : Definition.durationOf context field (some written) =
      match Duration.read (Text.trim written) with
      | .ok d => .ok (if d.nanos = 0 then none else some d)
      | .error fault => .error (.invalidDuration context field (Text.trim written) fault) := by
  have hne : ¬ (Text.trim written).isEmpty = true := by
    rw [String.isEmpty_iff, Text.trim_eq_empty_iff]
    exact h
  exact if_neg hne

theorem isDuration_of_read {written : String} {d : Duration}
    (h : Duration.read (Text.trim written) = .ok d) : IsDuration written d := by
  rw [Duration.read, Text.trim, String.toList_ofList, ← Text.trim] at h
  split at h
  · next n hread =>
    rw [← Except.ok.inj h]
    exact .seconds (Decimal.readUnsigned?_eq_some_iff.1 hread)
  · exact .span h

theorem read_eq_error_iff {written : String} {fault : Duration.Fault} :
    Duration.read (Text.trim written) = .error fault ↔
      (∀ n, ¬ Decimal.IsUnsigned 64 (Text.trimChars written.toList) n) ∧
        Duration.readWithUnits (Text.trim written) = .error fault := by
  rw [Duration.read, Text.trim, String.toList_ofList, ← Text.trim]
  cases hread : Decimal.readUnsigned? 64 (Text.trimChars written.toList) with
  | some n =>
    refine iff_of_false (fun h ↦ ?_) fun h ↦ h.1 n (Decimal.readUnsigned?_eq_some_iff.1 hread)
    cases h
  | none =>
    refine (and_iff_right fun n h ↦ ?_).symm
    rw [Decimal.readUnsigned?_eq_some_iff.2 h] at hread
    cases hread

theorem passes_duration_iff {field : DurationField} : raw.Passes (.duration field) ↔
    ∀ written, raw.duration field = some written →
      Text.OnlyBlanks written ∨ ∃ d, IsDuration written d := by
  constructor
  · intro h written hwritten
    by_cases hblank : Text.OnlyBlanks written
    · exact .inl hblank
    · cases hread : Duration.read (Text.trim written) with
      | ok d => exact .inr ⟨d, isDuration_of_read hread⟩
      | error fault =>
        obtain ⟨hseconds, hspan⟩ := read_eq_error_iff.1 hread
        exact absurd (.duration hwritten hblank hseconds hspan) (h _)
  · intro h e hfails
    cases hfails with
    | duration hwritten hblank hseconds hspan =>
      obtain ⟨d, hd⟩ := (h _ hwritten).resolve_left hblank
      cases hd with
      | seconds hn => exact hseconds _ hn
      | span hd => rw [hd] at hspan; cases hspan

/-! ## The steps of the reader -/

/-- The step makes the checks one after the other. It comes to a result only if all of them pass,
and the result has the property; it fails with the error of the first check that fails. -/
structure Makes {α : Type} (raw : RawDefinition) (checks : List Check) (P : α → Prop)
    (x : Except DefinitionError α) : Prop where
  ok : ∀ a, x = .ok a → (∀ check ∈ checks, raw.Passes check) ∧ P a
  error : ∀ e, x = .error e → raw.FailsFirst checks e

variable {α β : Type} {checks others : List Check} {P : α → Prop} {Q : β → Prop}
  {x : Except DefinitionError α}

theorem Makes.bind {f : α → Except DefinitionError β} (hx : raw.Makes checks P x)
    (hf : ∀ a, P a → raw.Makes others Q (f a)) : raw.Makes (checks ++ others) Q (x >>= f) := by
  cases x with
  | error e => exact ⟨nofun, fun e' he ↦ Except.error.inj he ▸ (hx.error e rfl).append others⟩
  | ok a =>
    obtain ⟨hpass, ha⟩ := hx.ok a rfl
    constructor
    · intro b hb
      obtain ⟨hothers, hq⟩ := (hf a ha).ok b hb
      exact ⟨List.forall_mem_append.2 ⟨hpass, hothers⟩, hq⟩
    · exact fun e he ↦ ((hf a ha).error e he).behind hpass

theorem Makes.of_ok {a : α} (h : P a) : raw.Makes [] P (.ok a) :=
  ⟨fun _ heq ↦ ⟨nofun, Except.ok.inj heq ▸ h⟩, nofun⟩

/-- What is made of a result makes no check. -/
theorem Makes.map {f : α → β} (hx : raw.Makes checks P x) (hf : ∀ a, P a → Q (f a)) :
    raw.Makes checks Q (x >>= fun a ↦ .ok (f a)) := by
  have hbind := hx.bind (f := fun a ↦ .ok (f a)) fun a ha ↦ of_ok (hf a ha)
  rwa [List.append_nil] at hbind

/-- A check that one condition fails passes exactly without the condition. -/
theorem passes_iff_of_fails_iff {p : Prop} {check : Check}
    (h : ∀ e', raw.Fails check e' ↔ p ∧ e' = e) : raw.Passes check ↔ ¬ p :=
  ⟨fun hpass hp ↦ hpass e ((h e).2 ⟨hp, rfl⟩), fun hp e' hfails ↦ hp ((h e').1 hfails).1⟩

/-- A check that one condition fails stands before a step. -/
theorem Makes.unless {p : Prop} [Decidable p] {check : Check}
    (hcheck : ∀ e', raw.Fails check e' ↔ p ∧ e' = e) (hx : ¬ p → raw.Makes checks P x) :
    raw.Makes (check :: checks) P (if p then .error e else x) := by
  by_cases hp : p
  · rw [if_pos hp]
    exact ⟨nofun, fun e' he ↦ .of_fails ((hcheck e').2 ⟨hp, (Except.error.inj he).symm⟩)⟩
  · rw [if_neg hp]
    obtain ⟨hok, herror⟩ := hx hp
    have hpass := (passes_iff_of_fails_iff hcheck).2 hp
    constructor
    · exact fun a ha ↦ ⟨List.forall_mem_cons.2 ⟨hpass, (hok a ha).1⟩, (hok a ha).2⟩
    · exact fun e' he ↦ failsFirst_cons_iff.2 (.inr ⟨hpass, herror e' he⟩)

theorem makes_kindOf : raw.Makes [.kind column] (raw.HasKind column)
    (Definition.kindOf (Text.trim raw.context) raw column) := by
  constructor
  · intro kind h
    have hkind := (kindOf_eq_ok_iff _).1 h
    exact ⟨List.forall_mem_singleton.2 (passes_kind_iff.2 ⟨kind, hkind⟩), hkind⟩
  · exact fun e h ↦ .of_fails (kindOf_eq_error_iff.1 h)

end RawDefinition

/-- The column is the one for an entry of the help texts. -/
structure MetricColumn.IsFor (column : MetricColumn) (raw : RawDefinition)
    (e : String × String) : Prop where
  name : column.name = Text.lower e.1
  help : column.help = e.2
  kind : raw.HasKind column.name column.kind
  buckets : column.kind = .histogram → ∃ bounds, raw.buckets.IsFound column.name bounds ∧
    column.buckets = Definition.bucketsOf bounds
  noBuckets : column.kind ≠ .histogram → column.buckets = []

namespace RawDefinition

variable {raw : RawDefinition}

theorem makes_columnOf (e : String × String) : raw.Makes (columnChecks e)
    (fun column ↦ column.IsFor raw e)
    (Definition.columnOf (Text.trim raw.context) raw e.1 e.2) := by
  change raw.Makes ([.kind _] ++ [.buckets _]) _ _
  refine makes_kindOf.bind fun kind hkind ↦ ?_
  by_cases hhistogram : kind = .histogram
  · subst hhistogram
    rw [if_pos rfl]
    cases hfound : raw.buckets.getFolded? (Text.lower e.1) with
    | none =>
      have hmissing := KeyMap.getFolded?_eq_none_iff.1 hfound
      exact ⟨nofun, fun e' he ↦ Except.error.inj he ▸ .of_fails (.buckets hkind hmissing)⟩
    | some bounds =>
      have hbounds := KeyMap.getFolded?_eq_some_iff.1 hfound
      refine ⟨?_, nofun⟩
      rintro _ ⟨⟩
      refine ⟨List.forall_mem_singleton.2 (passes_buckets_iff.2 fun _ ↦ ⟨bounds, hbounds⟩), ?_⟩
      exact ⟨rfl, rfl, hkind, fun _ ↦ ⟨bounds, hbounds, rfl⟩, absurd rfl⟩
  · rw [if_neg hhistogram]
    refine ⟨?_, nofun⟩
    rintro _ ⟨⟩
    refine ⟨List.forall_mem_singleton.2 (passes_buckets_iff.2 fun hother ↦ ?_), ?_⟩
    · -- A column has one kind only.
      have hkind := (kindOf_eq_ok_iff "").2 hkind
      rw [(kindOf_eq_ok_iff "").2 hother] at hkind
      exact absurd (Except.ok.inj hkind).symm hhistogram
    · exact ⟨rfl, rfl, hkind, fun h ↦ absurd h hhistogram, fun _ ↦ rfl⟩

theorem makes_columnsOf (help : KeyMap String) : raw.Makes (help.flatMap columnChecks)
    (fun columns ↦ List.Forall₂ (fun e column ↦ column.IsFor raw e) help columns)
    (Definition.columnsOf (Text.trim raw.context) raw help) := by
  induction help with
  | nil => exact .of_ok .nil
  | cons e help ih =>
    rw [List.flatMap_cons]
    refine (makes_columnOf e).bind fun column hcolumn ↦ ?_
    exact ih.map fun columns hcolumns ↦ .cons hcolumn hcolumns

/-- A duration was kept: it is the one that was written, and it is not zero. -/
def IsKept (written : Option String) (d : Option Duration) : Prop :=
  ∀ span, d = some span → span ≠ .zero ∧ ∃ s, written = some s ∧ IsDuration s span

theorem makes_durationOf (field : DurationField) : raw.Makes [.duration field]
    (IsKept (raw.duration field))
    (Definition.durationOf (Text.trim raw.context) field (raw.duration field)) := by
  cases hwritten : raw.duration field with
  | none =>
    refine ⟨?_, nofun⟩
    rintro _ ⟨⟩
    refine ⟨List.forall_mem_singleton.2 (passes_duration_iff.2 fun written h ↦ ?_), nofun⟩
    rw [hwritten] at h
    cases h
  | some written =>
    have hpass (h : Text.OnlyBlanks written ∨ ∃ d, IsDuration written d) :
        ∀ check ∈ [Check.duration field], raw.Passes check := by
      refine List.forall_mem_singleton.2 (passes_duration_iff.2 fun other hother ↦ ?_)
      rw [hwritten, Option.some.injEq] at hother
      rwa [← hother]
    by_cases hblank : Text.OnlyBlanks written
    · rw [durationOf_of_onlyBlanks hblank]
      refine ⟨?_, nofun⟩
      rintro _ ⟨⟩
      exact ⟨hpass (.inl hblank), nofun⟩
    · rw [durationOf_of_not_onlyBlanks hblank]
      cases hread : Duration.read (Text.trim written) with
      | error fault =>
        obtain ⟨hseconds, hspan⟩ := read_eq_error_iff.1 hread
        refine ⟨nofun, fun e he ↦ Except.error.inj he ▸ .of_fails ?_⟩
        exact .duration hwritten hblank hseconds hspan
      | ok d =>
        have hd := isDuration_of_read hread
        refine ⟨?_, nofun⟩
        rintro _ ⟨⟩
        refine ⟨hpass (.inr ⟨d, hd⟩), fun span hspan ↦ ?_⟩
        split at hspan
        · cases hspan
        · next hzero =>
          cases hspan
          exact ⟨fun h ↦ hzero (congrArg Duration.nanos h), written, rfl, hd⟩

end RawDefinition

/-! ## Definitions -/

/-- A definition that passed every check has what it should have of the text of it. -/
structure Definition.IsTidy (d : Definition) (raw : RawDefinition) : Prop where
  columns_ne : d.columns ≠ []
  columns : List.Forall₂ (fun e column ↦ column.IsFor raw e) raw.help d.columns
  labels : d.labels = (raw.labels.map Text.lower).filter fun label ↦ some label ≠ d.fieldToAppend
  field : ∀ name, d.fieldToAppend = some name → name ≠ "" ∧ ∃ written,
    raw.fieldToAppend = some written ∧ name = Text.lower (Text.trim written)
  queryTimeout : RawDefinition.IsKept raw.queryTimeout d.queryTimeout
  scrapeInterval : RawDefinition.IsKept raw.scrapeInterval d.scrapeInterval

namespace RawDefinition

variable {raw : RawDefinition}

theorem fails_request_iff (e : DefinitionError) : raw.Fails .request e ↔
    Text.isAllBlank raw.request = true ∧ e = .missingRequest (Text.trim raw.context) := by
  rw [Text.isAllBlank_iff]
  constructor
  · rintro ⟨h⟩
    exact ⟨h, rfl⟩
  · rintro ⟨h, rfl⟩
    exact .request h

theorem fails_columns_iff (e : DefinitionError) : raw.Fails .columns e ↔
    raw.help.isEmpty = true ∧ e = .missingColumns (Text.trim raw.context) := by
  rw [List.isEmpty_iff]
  constructor
  · intro h
    cases h with
    | columns h => exact ⟨h, rfl⟩
  · rintro ⟨h, rfl⟩
    exact .columns h

theorem isWellFormed_iff : raw.IsWellFormed ↔ ∀ check ∈ raw.checks, raw.Passes check := by
  have hcolumns : (∀ check ∈ raw.help.flatMap columnChecks, raw.Passes check) ↔
      ∀ e ∈ raw.help, raw.Passes (.kind (Text.lower e.1)) ∧
        raw.Passes (.buckets (Text.lower e.1)) := by
    rw [List.forall_mem_flatMap]
    simp only [columnChecks, List.forall_mem_cons, List.not_mem_nil, false_implies, implies_true,
      and_true]
  rw [checks, List.forall_mem_cons, List.forall_mem_cons, List.forall_mem_append, hcolumns,
    List.forall_mem_cons, List.forall_mem_singleton, passes_iff_of_fails_iff fails_request_iff,
    passes_iff_of_fails_iff fails_columns_iff, Text.isAllBlank_iff, List.isEmpty_iff]
  simp only [passes_kind_iff, passes_buckets_iff, passes_duration_iff]
  constructor
  · rintro ⟨hrequest, hhelp, hkinds, hbuckets, hdurations⟩
    exact ⟨hrequest, hhelp, fun e he ↦ ⟨hkinds e he, hbuckets e he⟩, hdurations _, hdurations _⟩
  · rintro ⟨hrequest, hhelp, hcolumns, hquery, hscrape⟩
    refine ⟨hrequest, hhelp, fun e he ↦ (hcolumns e he).1, fun e he ↦ (hcolumns e he).2, ?_⟩
    intro field
    cases field with
    | queryTimeout => exact hquery
    | scrapeInterval => exact hscrape

end RawDefinition

namespace Definition

theorem ofRaw_eq (raw : RawDefinition) : ofRaw raw =
    if Text.isAllBlank raw.request then .error (.missingRequest (Text.trim raw.context))
    else if raw.help.isEmpty then .error (.missingColumns (Text.trim raw.context))
    else columnsOf (Text.trim raw.context) raw raw.help >>= fun columns ↦
      durationOf (Text.trim raw.context) .queryTimeout raw.queryTimeout >>= fun queryTimeout ↦
      durationOf (Text.trim raw.context) .scrapeInterval raw.scrapeInterval >>= fun scrapeInterval ↦
      .ok {
        id := Text.trim raw.context
        context := Text.trim raw.context
        labels := raw.plainLabels
        columns := columns
        fieldToAppend := fieldOf raw.fieldToAppend
        request := raw.request
        ignoreZeroResult := raw.ignoreZeroResult
        queryTimeout := queryTimeout
        scrapeInterval := scrapeInterval
        databases := raw.databases } := by
  rw [ofRaw]
  split
  · rfl
  · split
    · rfl
    · rfl

theorem of_fieldOf {written : Option String} {name : String} (h : fieldOf written = some name) :
    name ≠ "" ∧ ∃ s, written = some s ∧ name = Text.lower (Text.trim s) := by
  cases written with
  | none => cases h
  | some s =>
    rw [fieldOf] at h
    split at h
    · cases h
    · next hblank =>
      obtain rfl := Option.some.inj h
      rw [Text.isAllBlank_iff, ← Text.trim_eq_empty_iff, ← Text.lower_eq_empty_iff] at hblank
      exact ⟨hblank, s, rfl, rfl⟩

theorem makes_ofRaw (raw : RawDefinition) :
    raw.Makes raw.checks (fun d ↦ d.IsTidy raw) (ofRaw raw) := by
  rw [ofRaw_eq]
  refine .unless RawDefinition.fails_request_iff fun _ ↦ ?_
  refine .unless RawDefinition.fails_columns_iff fun hhelp ↦ ?_
  refine (RawDefinition.makes_columnsOf raw.help).bind fun columns hcolumns ↦ ?_
  refine (RawDefinition.makes_durationOf .queryTimeout).bind fun queryTimeout hquery ↦ ?_
  refine (RawDefinition.makes_durationOf .scrapeInterval).map fun scrapeInterval hscrape ↦ ?_
  have hne : columns ≠ [] := by
    rintro rfl
    rw [List.forall₂_nil_right_iff.1 hcolumns] at hhelp
    exact hhelp rfl
  exact {
    columns_ne := hne
    columns := hcolumns
    labels := rfl
    field := fun name ↦ of_fieldOf
    queryTimeout := hquery
    scrapeInterval := hscrape }

/-- A definition as written is accepted exactly if it is well formed; the error of another one is
that of the first check that it fails; and whatever is accepted is tidy. -/
theorem ofRaw_accepts (raw : RawDefinition) :
    ((∃ d, ofRaw raw = .ok d) ↔ raw.IsWellFormed) ∧
      (∀ e, ofRaw raw = .error e ↔ raw.FailsFirst raw.checks e) ∧
      ∀ d, ofRaw raw = .ok d → d.IsTidy raw := by
  have hmakes := makes_ofRaw raw
  rw [RawDefinition.isWellFormed_iff]
  refine ⟨?_, fun e ↦ ⟨hmakes.error e, fun hfirst ↦ ?_⟩, fun d hd ↦ (hmakes.ok d hd).2⟩
  · constructor
    · rintro ⟨d, hd⟩
      exact (hmakes.ok d hd).1
    · intro hpass
      cases hread : ofRaw raw with
      | ok d => exact ⟨d, rfl⟩
      | error e =>
        obtain ⟨before, check, after, heq, -, hfails⟩ := hmakes.error e hread
        exact absurd hfails (hpass check (heq ▸ by simp) e)
  · cases hread : ofRaw raw with
    | ok d =>
      obtain ⟨before, check, after, heq, -, hfails⟩ := hfirst
      exact absurd hfails ((hmakes.ok d hread).1 check (heq ▸ by simp) e)
    | error other => rw [hfirst.unique (hmakes.error other hread)]

/-- A definition with a histogram, whose keys are in different letter case. -/
def waits : RawDefinition where
  context := " waits "
  labels := ["Class", "STATE"]
  help := [("TIME", "time waited"), ("total", "sessions")]
  kinds := [("Time", " Histogram ")]
  buckets := [("time", [("le_1", "0.5"), ("le_2", "2")])]
  fieldToAppend := some "State"
  request := "q"
  queryTimeout := some "0"
  scrapeInterval := some "1 min"

theorem ofRaw_accepts_waits : ∃ d, ofRaw waits = .ok d ∧ d.IsTidy waits := by
  obtain ⟨d, hd⟩ : ∃ d, ofRaw waits = .ok d := ⟨_, rfl⟩
  exact ⟨d, hd, (ofRaw_accepts waits).2.2 d hd⟩

/-- The type is checked before the query timeout, and the last of its keys counts. -/
example : ofRaw { waits with kinds := [("TIME", "gauge"), ("time", "rate")],
                             queryTimeout := some "soon" } =
    .error (.unknownType "waits" "time" "rate") := by
  rfl

end Definition

end Telemetry
