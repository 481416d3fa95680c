import FieldRules.Check.Basic

set_option autoImplicit false

namespace FieldRules

-- Two readings that are refused alike, whatever they give when they are not.
def SameErrors {ε α β : Type} (x : Except ε α) (y : Except ε β) : Prop :=
  ∀ e, x = .error e ↔ y = .error e

namespace SameErrors

variable {ε α β γ δ : Type}

theorem refl (x : Except ε α) : SameErrors x x := fun _ => Iff.rfl

theorem of_ok (a : α) (b : β) : SameErrors (.ok a : Except ε α) (.ok b : Except ε β) := by
  simp [SameErrors]

theorem of_error (e : ε) : SameErrors (.error e : Except ε α) (.error e : Except ε β) := by
  simp [SameErrors]

theorem map {x : Except ε α} {y : Except ε β} (same : SameErrors x y) (f : α → γ) (g : β → δ) :
    SameErrors (x.map f) (y.map g) := by
  intro e
  have same := same e
  cases x <;> cases y <;> simp_all [Except.map]

theorem bind {x : Except ε α} {y : Except ε β} (same : SameErrors x y) {f : α → Except ε γ}
    {g : β → Except ε δ} (next : ∀ a b, SameErrors (f a) (g b)) :
    SameErrors (x >>= f) (y >>= g) := by
  cases x with
  | error d =>
    have refused : y = .error d := (same d).1 rfl
    subst refused
    exact of_error d
  | ok a =>
    cases y with
    | error d => simpa using same d
    | ok b => exact next a b

end SameErrors

-- What the clock says is no part of whether a bound can be read.
theorem readBound_sameErrors (now later : Moment) (text : List Char) :
    SameErrors (readBound now text) (readBound later text) := by
  simp only [readBound]
  split
  · exact .of_ok _ _
  · split
    · exact .of_ok _ _
    · exact .refl _

theorem boundParam_sameErrors (now later : Moment) (param : Option String) :
    SameErrors (boundParam now param) (boundParam later param) := by
  cases param with
  | none => exact .of_error _
  | some text => exact readBound_sameErrors now later text.toList

theorem boundsParam_of_comma (now : Moment) {text : String} {first last : List Char}
    (split : splitOnce ',' text.toList = some (first, last)) :
    boundsParam now (some text) =
      (readBound now first >>= fun a => readBound now last >>= fun b => .ok (a, b)) := by
  simp [boundsParam, requiredParam, split, bind, Except.bind]

theorem boundsParam_of_no_comma (now : Moment) {text : String}
    (split : splitOnce ',' text.toList = none) :
    boundsParam now (some text) = .error .invalidRange := by
  simp [boundsParam, requiredParam, split, bind, Except.bind]

theorem boundsParam_sameErrors (now later : Moment) (param : Option String) :
    SameErrors (boundsParam now param) (boundsParam later param) := by
  cases param with
  | none => exact .of_error _
  | some text =>
    cases split : splitOnce ',' text.toList with
    | none =>
      rw [boundsParam_of_no_comma now split, boundsParam_of_no_comma later split]
      exact .of_error _
    | some parts =>
      obtain ⟨first, last⟩ := parts
      rw [boundsParam_of_comma now split, boundsParam_of_comma later split]
      refine (readBound_sameErrors now later first).bind fun _ _ => ?_
      exact (readBound_sameErrors now later last).bind fun _ _ => .of_ok _ _

namespace Kind

theorem condition_sameErrors (now later : Moment) (param : Option String) (kind : Kind) :
    SameErrors (kind.condition now param) (kind.condition later param) := by
  cases kind with
  | after | before | afterOrEqual | beforeOrEqual =>
    exact (boundParam_sameErrors now later param).map _ _
  | dateBetween => exact (boundsParam_sameErrors now later param).map _ _
  | _ => exact .refl _

theorem check_eq_badParam_iff (now : Moment) (kind : Kind) (v : Json) (param : Option String)
    (e : ParamError) :
    kind.check now v param = .badParam e ↔ kind.condition now param = .error e := by
  unfold check
  cases kind.condition now param with
  | error d => simp
  | ok holds => simp

theorem condition_of_not_takesParam {kind : Kind} (bare : kind.takesParam = false) :
    ∃ holds, ∀ now param, kind.condition now param = .ok holds := by
  cases kind with
  | decimal | min | max | minDigit | maxDigit | regex | after | before | afterOrEqual
  | beforeOrEqual | dateBetween | equalTo | notEqualTo | isIn | notIn | numberBetween =>
    simp [takesParam] at bare
  | _ => exact ⟨_, fun _ _ => rfl⟩

theorem condition_of_left_out {kind : Kind} (reads : kind.takesParam = true) :
    ∃ e, ∀ now, kind.condition now none = .error e := by
  cases kind with
  | decimal | min | max | minDigit | maxDigit | regex | after | before | afterOrEqual
  | beforeOrEqual | dateBetween | equalTo | notEqualTo | isIn | notIn | numberBetween =>
    exact ⟨_, fun _ => rfl⟩
  | _ => simp [takesParam] at reads

theorem check_ne_badParam_of_not_takesParam {kind : Kind} (bare : kind.takesParam = false)
    (now : Moment) (v : Json) (param : Option String) (e : ParamError) :
    kind.check now v param ≠ .badParam e := by
  obtain ⟨holds, accepted⟩ := condition_of_not_takesParam bare
  simp [check_eq_badParam_iff, accepted]

theorem exists_badParam_of_left_out {kind : Kind} (reads : kind.takesParam = true) (now : Moment)
    (v : Json) : ∃ e, kind.check now v none = .badParam e := by
  obtain ⟨e, refused⟩ := condition_of_left_out reads
  exact ⟨e, (check_eq_badParam_iff now kind v none e).2 (refused now)⟩

theorem check_badParam_of_rule (kind : Kind) (now : Moment) (v : Json) (param : Option String) :
    (∀ later w e,
      kind.check now v param = .badParam e ↔ kind.check later w param = .badParam e) ∧
    (kind.takesParam = false ↔ ∀ other e, kind.check now v other ≠ .badParam e) ∧
    (kind.takesParam = false → ∀ other, kind.check now v other = kind.check now v param) ∧
    (kind.takesParam = true ↔ ∃ e, kind.check now v none = .badParam e) ∧
    (kind.takesParam = true → kind.check now v param = .invalid → ∃ text, param = some text) := by
  refine ⟨fun later w e => ?_, ⟨fun bare => ?_, fun never => ?_⟩, fun bare other => ?_,
    ⟨fun reads => ?_, ?_⟩, fun reads fails => ?_⟩
  · rw [check_eq_badParam_iff, check_eq_badParam_iff]
    exact condition_sameErrors now later param kind e
  · exact check_ne_badParam_of_not_takesParam bare now v
  · refine Bool.eq_false_iff.2 fun reads => ?_
    obtain ⟨e, refused⟩ := exists_badParam_of_left_out reads now v
    exact never none e refused
  · obtain ⟨holds, accepted⟩ := condition_of_not_takesParam bare
    simp [check, accepted]
  · exact exists_badParam_of_left_out reads now v
  · rintro ⟨e, refused⟩
    refine Bool.of_not_eq_false fun bare => ?_
    exact check_ne_badParam_of_not_takesParam bare now v none e refused
  · cases param with
    | some text => exact ⟨text, rfl⟩
    | none =>
      obtain ⟨e, refused⟩ := exists_badParam_of_left_out reads now v
      simp [refused] at fails

theorem check_badParam_of_rule_of_unreadable_bound :
    Kind.check (.midnight 0) .after .null (some "someday") = .badParam .invalidDate ∧
    (∀ later w, Kind.check later .after w (some "someday") = .badParam .invalidDate) ∧
    Kind.takesParam .string = false ∧
    Kind.check (.midnight 0) .string (.text "a") none =
      Kind.check (.midnight 0) .string (.text "a") (some "x") ∧
    Kind.takesParam .equalTo = true ∧
    Kind.check (.midnight 0) .equalTo (.text "a") (some "b") = .invalid ∧
    ∃ text, some "b" = some text := by
  have refused : Kind.check (.midnight 0) .after .null (some "someday") =
      .badParam .invalidDate := by
    decide +kernel
  have fails : Kind.check (.midnight 0) .equalTo (.text "a") (some "b") = .invalid := by
    decide +kernel
  obtain ⟨unreadable, -⟩ := check_badParam_of_rule .after (.midnight 0) .null (some "someday")
  obtain ⟨-, -, ignored, -⟩ := check_badParam_of_rule .string (.midnight 0) (.text "a") (some "x")
  obtain ⟨-, -, -, -, shown⟩ :=
    check_badParam_of_rule .equalTo (.midnight 0) (.text "a") (some "b")
  exact ⟨refused, fun later w => (unreadable later w _).1 refused, rfl, ignored rfl none, rfl,
    fails, shown rfl fails⟩

end Kind

end FieldRules
