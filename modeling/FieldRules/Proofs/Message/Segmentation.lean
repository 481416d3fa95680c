import FieldRules.Message.Template
import FieldRules.Proofs.Text.Run

set_option autoImplicit false

namespace FieldRules

theorem isWord_colon : isWord ':' = false := by decide +kernel

structure Placeholder (text before word after : List Char) : Prop where
  text : text = before ++ ':' :: (word ++ after)
  run : ∀ c ∈ word, isWord c = true
  stop : ∀ c ∈ after.head?, isWord c = false

namespace Placeholder

variable {text before word after : List Char}

theorem unique {other last : List Char} (place : Placeholder text before word after)
    (place' : Placeholder text before other last) : word = other ∧ after = last := by
  have same : word ++ after = other ++ last := by
    simpa using (List.append_cancel_left (place.text.symm.trans place'.text))
  exact run_unique same place.run place.stop place'.run place'.stop

theorem colon_not_mem (place : Placeholder text before word after) : ':' ∉ word := by
  intro member
  have inside := place.run ':' member
  rw [isWord_colon] at inside
  exact Bool.false_ne_true inside

theorem append_iff (front : List Char) :
    Placeholder (front ++ text) (front ++ before) word after ↔
      Placeholder text before word after := by
  constructor
  next =>
    intro place
    exact ⟨by simpa using place.text, place.run, place.stop⟩
  next =>
    intro place
    exact ⟨by simp [place.text], place.run, place.stop⟩

theorem start_or_behind {c : Char} {front : List Char} (free : ':' ∉ front)
    (place : Placeholder (c :: (front ++ text)) before word after) :
    before = [] ∨ ∃ rest, before = c :: (front ++ rest) ∧ Placeholder text rest word after := by
  cases before with
  | nil => exact .inl rfl
  | cons d rest =>
    refine .inr ?_
    obtain ⟨rfl, split⟩ := List.cons.inj place.text
    rcases List.append_eq_append_iff.1 split with ⟨more, rfl, rfl⟩ | ⟨more, rfl, colon⟩
    · exact ⟨more, rfl, rfl, place.run, place.stop⟩
    · cases more with
      | nil => exact ⟨[], by simp, by simpa using colon.symm, place.run, place.stop⟩
      | cons e more =>
        obtain ⟨rfl, -⟩ := List.cons.inj colon
        exact absurd (by simp) free

end Placeholder

inductive SlotOf (kind : Kind) : List Char → Piece → Prop
  | key : SlotOf kind "attr".toList .key
  | param : SlotOf kind kind.name.toList (.param (':' :: kind.name.toList))

namespace Piece

def source : Piece → List Char
  | literal cs => cs
  | .key => ":attr".toList
  | .param slot => slot

def single : Piece → List Piece
  | literal cs => cs.map fun c => .literal [c]
  | slot => [slot]

theorem fill_single (key : String) (param : Option String) (p : Piece) :
    p.single.flatMap (fill key param) = p.fill key param := by
  cases p with
  | literal cs => simp [single, fill, List.flatMap_map]
  | key => simp [single]
  | param slot => simp [single]

end Piece

theorem Kind.name_ne_attr (kind : Kind) : kind.name.toList ≠ "attr".toList := by
  cases kind <;> decide

namespace SlotOf

variable {kind : Kind} {word : List Char} {p q : Piece}

theorem source (slot : SlotOf kind word p) : p.source = ':' :: word := by cases slot <;> rfl

theorem ofWord (slot : SlotOf kind word p) : Piece.ofWord kind word = p := by
  cases slot with
  | key => rw [Piece.ofWord, if_pos rfl]
  | param => rw [Piece.ofWord, if_neg kind.name_ne_attr, if_pos rfl]

theorem unique (left : SlotOf kind word p) (right : SlotOf kind word q) : p = q :=
  left.ofWord.symm.trans right.ofWord

theorem single (slot : SlotOf kind word p) : p.single = [p] := by cases slot <;> rfl

theorem word_ne_nil (slot : SlotOf kind word p) : word ≠ [] := by
  cases slot with
  | key => decide
  | param => cases kind <;> decide

theorem ofWord_of_none (none : ∀ p, ¬ SlotOf kind word p) :
    Piece.ofWord kind word = .literal (':' :: word) := by
  have notKey : word ≠ "attr".toList := by
    rintro rfl
    exact none _ .key
  have notParam : word ≠ kind.name.toList := by
    rintro rfl
    exact none _ .param
  rw [Piece.ofWord, if_neg notKey, if_neg notParam]

end SlotOf

def StandsAt (ps : List Piece) (p : Piece) (before after : List Char) : Prop :=
  ∃ front back, ps = front ++ p :: back ∧
    front.flatMap Piece.source = before ∧ back.flatMap Piece.source = after

theorem not_standsAt_nil (p : Piece) (before after : List Char) : ¬ StandsAt [] p before after := by
  rintro ⟨front, back, split, -, -⟩
  simp at split

theorem standsAt_cons_iff {p q : Piece} {ps : List Piece} {before after : List Char} :
    StandsAt (q :: ps) p before after ↔
      p = q ∧ before = [] ∧ after = ps.flatMap Piece.source ∨
        ∃ rest, before = q.source ++ rest ∧ StandsAt ps p rest after := by
  constructor
  next =>
    rintro ⟨front, back, split, rfl, rfl⟩
    cases front with
    | nil =>
      cases split
      exact .inl ⟨rfl, rfl, rfl⟩
    | cons r front =>
      cases split
      exact .inr ⟨_, rfl, front, back, rfl, rfl, rfl⟩
  next =>
    rintro (⟨rfl, rfl, rfl⟩ | ⟨rest, rfl, front, back, rfl, rfl, rfl⟩)
    · exact ⟨[], ps, rfl, rfl, rfl⟩
    · exact ⟨q :: front, back, rfl, by simp, rfl⟩

-- The pieces together are the text, each a single character or a slot of the kind, and the slots
-- stand where the placeholders of their words do.
structure Segments (kind : Kind) (text : List Char) (ps : List Piece) : Prop where
  source : ps.flatMap Piece.source = text
  piece : ∀ p ∈ ps, (∃ c, p = .literal [c]) ∨ ∃ word, SlotOf kind word p
  slot : ∀ word p, SlotOf kind word p → ∀ before after,
    StandsAt ps p before after ↔ Placeholder text before word after

namespace Segments

variable {kind : Kind} {text : List Char} {p : Piece} {ps : List Piece}

theorem cons (segments : Segments kind text ps)
    (piece : (∃ c, p = .literal [c]) ∨ ∃ word, SlotOf kind word p) {c : Char} {front : List Char}
    (source : p.source = c :: front) (free : ':' ∉ front)
    (start : ∀ word q, SlotOf kind word q → ∀ after,
      q = p ∧ after = text ↔ Placeholder (p.source ++ text) [] word after) :
    Segments kind (p.source ++ text) (p :: ps) where
  source := by simp [segments.source]
  piece := List.forall_mem_cons.2 ⟨piece, segments.piece⟩
  slot := by
    intro word q slot before after
    simp only [standsAt_cons_iff, segments.source, segments.slot word q slot]
    constructor
    next =>
      rintro (⟨same, rfl, rest⟩ | ⟨rest, rfl, place⟩)
      · exact (start word q slot after).1 ⟨same, rest⟩
      · exact (Placeholder.append_iff p.source).2 place
    next =>
      intro place
      rw [source] at place ⊢
      rcases place.start_or_behind free with rfl | ⟨rest, rfl, behind⟩
      · rw [← source] at place
        obtain ⟨same, rest⟩ := (start word q slot after).2 place
        exact .inl ⟨same, rfl, rest⟩
      · exact .inr ⟨rest, rfl, behind⟩

theorem nil : Segments kind [] [] where
  source := rfl
  piece := by simp
  slot := by
    intro word p slot before after
    refine iff_of_false (not_standsAt_nil p before after) ?_
    intro place
    simpa using place.text

theorem cons_slot (segments : Segments kind text ps) {word : List Char} (slot : SlotOf kind word p)
    (place : Placeholder (':' :: (word ++ text)) [] word text) :
    Segments kind (':' :: (word ++ text)) (p :: ps) := by
  rw [← List.cons_append, ← slot.source] at place ⊢
  refine segments.cons (.inr ⟨word, slot⟩) slot.source place.colon_not_mem ?_
  intro other q slot' after
  constructor
  next =>
    rintro ⟨rfl, rfl⟩
    obtain rfl : other = word := (List.cons.inj (slot'.source.symm.trans slot.source)).2
    exact place
  next =>
    intro place'
    obtain ⟨rfl, rfl⟩ := place'.unique place
    exact ⟨slot'.unique slot, rfl⟩

theorem cons_char (segments : Segments kind text ps) {c : Char}
    (none : ∀ word p, SlotOf kind word p → ∀ after, ¬ Placeholder (c :: text) [] word after) :
    Segments kind (c :: text) (.literal [c] :: ps) := by
  refine segments.cons (.inl ⟨c, rfl⟩) rfl (by simp) ?_
  intro word q slot after
  refine iff_of_false ?_ (none word q slot after)
  rintro ⟨rfl, -⟩
  cases slot

theorem tail (segments : Segments kind text (p :: ps)) :
    Segments kind (ps.flatMap Piece.source) ps where
  source := rfl
  piece := (List.forall_mem_cons.1 segments.piece).2
  slot := by
    intro word q slot before after
    have whole : text = p.source ++ ps.flatMap Piece.source := by simp [← segments.source]
    have place := segments.slot word q slot (p.source ++ before) after
    rw [whole, Placeholder.append_iff, standsAt_cons_iff] at place
    rw [← place]
    constructor
    next =>
      intro stands
      exact .inr ⟨before, rfl, stands⟩
    next =>
      rintro (⟨rfl, start, -⟩ | ⟨rest, same, stands⟩)
      · simp [slot.source] at start
      · rwa [List.append_cancel_left same]

theorem start_iff (segments : Segments kind text (p :: ps)) {word : List Char} {q : Piece}
    (slot : SlotOf kind word q) (after : List Char) :
    q = p ∧ after = ps.flatMap Piece.source ↔ Placeholder text [] word after := by
  rw [← segments.slot word q slot, standsAt_cons_iff]
  constructor
  next =>
    rintro ⟨same, rest⟩
    exact .inl ⟨same, rfl, rest⟩
  next =>
    rintro (⟨same, -, rest⟩ | ⟨rest, empty, -⟩)
    · exact ⟨same, rest⟩
    · rcases segments.piece p (by simp) with ⟨c, rfl⟩ | ⟨other, slot'⟩
      · exact absurd empty (List.cons_ne_nil _ _).symm
      · simp [slot'.source] at empty

end Segments

namespace Lexeme

theorem ofText_of_mark {c : Char} (mark : isWord c = false) (text : List Char) :
    ofText (c :: text) = .mark c :: ofText text := by
  simp [ofText, mark]

theorem ofText_ne_word {text : List Char} (stop : ∀ c ∈ text.head?, isWord c = false)
    (run : List Char) (rest : List Lexeme) : ofText text ≠ .word run :: rest := by
  cases text with
  | nil => simp [ofText]
  | cons c cs => simp [ofText_of_mark (stop c rfl)]

theorem ofText_of_run {c : Char} {run text : List Char} (all : ∀ d ∈ c :: run, isWord d = true)
    (stop : ∀ c ∈ text.head?, isWord c = false) :
    ofText (c :: (run ++ text)) = .word (c :: run) :: ofText text := by
  induction run generalizing c with
  | nil =>
    rw [List.nil_append, ofText, if_pos (all c (by simp))]
    split
    next run rest cut => exact absurd cut (ofText_ne_word stop run rest)
    next => rfl
  | cons d run ih =>
    obtain ⟨first, others⟩ := List.forall_mem_cons.1 all
    rw [ofText, if_pos first, List.cons_append, ih others]

end Lexeme

namespace Template

def segmentation (kind : Kind) (text : List Char) : List Piece :=
  (pieces kind (Lexeme.ofText text)).flatMap Piece.single

theorem flatMap_fill_segmentation (kind : Kind) (text : List Char) (key : String)
    (param : Option String) :
    (segmentation kind text).flatMap (Piece.fill key param) =
      (pieces kind (Lexeme.ofText text)).flatMap (Piece.fill key param) := by
  simp only [segmentation, List.flatMap_assoc, Piece.fill_single]

variable {kind : Kind} {text word : List Char}

theorem segmentation_run (all : ∀ c ∈ word, isWord c = true)
    (stop : ∀ c ∈ text.head?, isWord c = false) :
    segmentation kind (word ++ text) =
      word.map (fun c => .literal [c]) ++ segmentation kind text := by
  cases word with
  | nil => rfl
  | cons c word =>
    rw [List.cons_append, segmentation, Lexeme.ofText_of_run all stop, pieces, List.flatMap_cons]
    · rfl
    · simp

theorem segmentation_word {c : Char} (inside : isWord c = true) :
    segmentation kind (c :: text) = .literal [c] :: segmentation kind text := by
  obtain ⟨run, rest, rfl, all, stop⟩ := exists_run isWord text
  have all' : ∀ d ∈ c :: run, isWord d = true := List.forall_mem_cons.2 ⟨inside, all⟩
  rw [← List.cons_append, segmentation_run all' stop, segmentation_run all stop, List.map_cons,
    List.cons_append]

theorem segmentation_mark {c : Char} (mark : isWord c = false) (other : c ≠ ':') :
    segmentation kind (c :: text) = .literal [c] :: segmentation kind text := by
  rw [segmentation, Lexeme.ofText_of_mark mark, pieces, List.flatMap_cons]
  · rfl
  · simp [other]

theorem segmentation_colon (stop : ∀ c ∈ text.head?, isWord c = false) :
    segmentation kind (':' :: text) = .literal [':'] :: segmentation kind text := by
  rw [segmentation, Lexeme.ofText_of_mark isWord_colon, pieces, List.flatMap_cons]
  · rfl
  · exact fun run rest _ cut => Lexeme.ofText_ne_word stop run rest cut

theorem segmentation_colon_run {c : Char} (all : ∀ d ∈ c :: word, isWord d = true)
    (stop : ∀ c ∈ text.head?, isWord c = false) :
    segmentation kind (':' :: (c :: word ++ text)) =
      (Piece.ofWord kind (c :: word)).single ++ segmentation kind text := by
  rw [segmentation, Lexeme.ofText_of_mark isWord_colon, List.cons_append,
    Lexeme.ofText_of_run all stop, pieces, List.flatMap_cons]
  rfl

theorem segmentation_slot {p : Piece} (slot : SlotOf kind word p)
    (place : Placeholder (':' :: (word ++ text)) [] word text) :
    segmentation kind (':' :: (word ++ text)) = p :: segmentation kind text := by
  obtain ⟨c, word, rfl⟩ := List.exists_cons_of_ne_nil slot.word_ne_nil
  rw [segmentation_colon_run place.run place.stop, slot.ofWord, slot.single]
  rfl

theorem segmentation_char {c : Char}
    (none : ∀ word p, SlotOf kind word p → ∀ after, ¬ Placeholder (c :: text) [] word after) :
    segmentation kind (c :: text) = .literal [c] :: segmentation kind text := by
  by_cases inside : isWord c = true
  next => exact segmentation_word inside
  next =>
    have mark : isWord c = false := Bool.eq_false_iff.2 inside
    by_cases colon : c = ':'
    next =>
      subst colon
      obtain ⟨run, rest, rfl, all, stop⟩ := exists_run isWord text
      cases run with
      | nil => exact segmentation_colon stop
      | cons d run =>
        have literal : Piece.ofWord kind (d :: run) = .literal (':' :: d :: run) :=
          SlotOf.ofWord_of_none fun p slot => none _ p slot rest ⟨rfl, all, stop⟩
        rw [segmentation_colon_run all stop, segmentation_run all stop, literal]
        rfl
    next => exact segmentation_mark mark colon

theorem segments_segmentation (kind : Kind) (text : List Char) :
    Segments kind text (segmentation kind text) := by
  -- A slot takes its whole placeholder, so the induction is on the length of what is left.
  induction size : text.length using Nat.strongRecOn generalizing text with
  | ind n ih =>
    by_cases own : ∃ word p, SlotOf kind word p ∧ ∃ after, Placeholder text [] word after
    next =>
      obtain ⟨word, p, slot, after, place⟩ := own
      obtain rfl : text = ':' :: (word ++ after) := place.text
      have shorter : after.length < n := by
        rw [← size, List.length_cons, List.length_append]
        omega
      rw [segmentation_slot slot place]
      exact Segments.cons_slot (ih after.length shorter after rfl) slot place
    next =>
      cases text with
      | nil => exact .nil
      | cons c text =>
        have none : ∀ word p, SlotOf kind word p → ∀ after,
            ¬ Placeholder (c :: text) [] word after :=
          fun word p slot after place => own ⟨word, p, slot, after, place⟩
        rw [segmentation_char none]
        exact Segments.cons_char (ih text.length (by simp [← size]) text rfl) none

theorem eq_segmentation {ps : List Piece} (segments : Segments kind text ps) :
    ps = segmentation kind text := by
  induction ps generalizing text with
  | nil =>
    obtain rfl : [] = text := segments.source
    rfl
  | cons p ps ih =>
    have rest := ih segments.tail
    have whole : p.source ++ ps.flatMap Piece.source = text := segments.source
    rcases segments.piece p (by simp) with ⟨c, rfl⟩ | ⟨word, slot⟩
    next =>
      have none : ∀ word q, SlotOf kind word q → ∀ after, ¬ Placeholder text [] word after := by
        intro word q slot after place
        obtain ⟨rfl, -⟩ := (segments.start_iff slot after).2 place
        cases slot
      rw [← whole] at none ⊢
      exact (congrArg (.literal [c] :: ·) rest).trans (segmentation_char none).symm
    next =>
      have place := (segments.start_iff slot _).1 ⟨rfl, rfl⟩
      rw [← whole, slot.source] at place ⊢
      exact (congrArg (p :: ·) rest).trans (segmentation_slot slot place).symm

theorem render_fills_segmentation (template : String) (kind : Kind) :
    ∃ ps, (∀ qs, Segments kind template.toList qs ↔ qs = ps) ∧
      ∀ key param, render template kind key param =
        String.ofList (ps.flatMap (Piece.fill key param)) := by
  refine ⟨segmentation kind template.toList, fun qs => ⟨eq_segmentation, ?_⟩, fun key param => ?_⟩
  · rintro rfl
    exact segments_segmentation kind template.toList
  · rw [flatMap_fill_segmentation]
    rfl

-- A longer word is no slot, and a parameter that looks like one stays as it is.
theorem render_fills_segmentation_of_colons :
    let template := "::attr needs :min, not :minDigit"
    let ps : List Piece := .literal [':'] :: .key :: " needs ".toList.map (fun c => .literal [c]) ++
      .param ":min".toList :: ", not :minDigit".toList.map (fun c => .literal [c])
    (∀ qs, Segments .min template.toList qs ↔ qs = ps) ∧
      render template .min "pin" (some ":attr") = ":pin needs :attr, not :minDigit" ∧
      render template .min "pin" none = ":pin needs :min, not :minDigit" := by
  intro template ps
  obtain ⟨qs, only, fills⟩ := render_fills_segmentation template .min
  have cut : segmentation .min template.toList = ps := by decide +kernel
  have same : ps = qs := cut ▸ (only _).1 (segments_segmentation .min template.toList)
  rw [← same] at only fills
  exact ⟨only, (fills "pin" (some ":attr")).trans (by decide +kernel),
    (fills "pin" none).trans (by decide +kernel)⟩

end Template

end FieldRules
