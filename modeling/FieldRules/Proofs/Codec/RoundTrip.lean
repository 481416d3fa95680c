import FieldRules.Proofs.Codec.Config
import FieldRules.Proofs.Codec.Fields

set_option autoImplicit false

namespace FieldRules

section Codec

variable {α : Type} (toJson : α → Json) (ofDocument? : Document → Option α)

-- What is written for `a` is a value, with every name once and in order, and it is read as `a`.
structure ReadsBack (a : α) : Prop where
  ordered : (toJson a).Ordered
  read : ofDocument? (.ofJson (toJson a)) = some a

def RoundTrips : Prop := ∀ a, ReadsBack toJson ofDocument? a

-- The document may have any form that is read, also one that is never written.
def Settles : Prop := ∀ d a, ofDocument? d = some a → ReadsBack toJson ofDocument? a

variable {toJson ofDocument?}

theorem RoundTrips.settles (roundTrips : RoundTrips toJson ofDocument?) :
    Settles toJson ofDocument? := by
  intro d a read
  exact roundTrips a

end Codec

theorem RuleSpec.roundTrips : RoundTrips toJson ofDocument? := by
  intro spec
  exact ⟨spec.ordered_toJson, spec.ofDocument?_toJson⟩

theorem Messages.roundTrips : RoundTrips toJson ofDocument? := by
  intro m
  exact ⟨ordered_toJson m, ofDocument?_toJson m⟩

theorem FieldSpec.roundTrips : RoundTrips toJson ofDocument? := by
  intro field
  exact ⟨field.ordered_toJson, field.ofDocument?_toJson⟩

theorem Config.roundTrips : RoundTrips toJson ofDocument? := by
  intro config
  exact ⟨config.ordered_toJson, config.ofDocument?_toJson⟩

theorem Setup.roundTrips : RoundTrips toJson ofDocument? := by
  intro setup
  exact ⟨setup.ordered_toJson, setup.ofDocument?_toJson⟩

theorem FieldResult.settles : Settles toJson ofDocument? := by
  intro d r read
  have kept : r.data.bind Datum.unlessNull = r.data := by
    have other := data_ne_null_of_ofDocument? read
    cases data : r.data with
    | none => rfl
    | some datum =>
      apply Datum.unlessNull_of_ne_null
      rintro rfl
      exact other data
  refine ⟨r.ordered_toJson, ?_⟩
  rw [ofDocument?_toJson, kept]

theorem codecs_round_trip :
    RoundTrips FieldSpec.toJson FieldSpec.ofDocument? ∧
    RoundTrips RuleSpec.toJson RuleSpec.ofDocument? ∧
    RoundTrips Messages.toJson Messages.ofDocument? ∧
    RoundTrips Config.toJson Config.ofDocument? ∧
    RoundTrips Setup.toJson Setup.ofDocument? ∧
    Settles FieldSpec.toJson FieldSpec.ofDocument? ∧
    Settles RuleSpec.toJson RuleSpec.ofDocument? ∧
    Settles Messages.toJson Messages.ofDocument? ∧
    Settles Config.toJson Config.ofDocument? ∧
    Settles Setup.toJson Setup.ofDocument? ∧
    Settles FieldResult.toJson FieldResult.ofDocument? :=
  ⟨FieldSpec.roundTrips, RuleSpec.roundTrips, Messages.roundTrips, Config.roundTrips,
    Setup.roundTrips, FieldSpec.roundTrips.settles, RuleSpec.roundTrips.settles,
    Messages.roundTrips.settles, Config.roundTrips.settles, Setup.roundTrips.settles,
    FieldResult.settles⟩

theorem codecs_round_trip_of_array_form :
    let d : Document :=
      .array [.text "k", .bool false, .object [("min", .text "a"), ("min", .text "b")], .null]
    ∃ r, FieldResult.ofDocument? d = some r ∧ r.data = none ∧
      r.message.get? .min = some "b" ∧
      FieldResult.ofDocument? (.ofJson r.toJson) = some r := by
  intro d
  have read : FieldResult.ofDocument? d = some _ := rfl
  obtain ⟨-, -, -, -, -, -, -, -, -, -, results⟩ := codecs_round_trip
  exact ⟨_, read, rfl, by decide +kernel, (results d _ read).read⟩

end FieldRules
