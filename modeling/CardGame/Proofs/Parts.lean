import CardGame.Text.Span
import Mathlib.Data.List.Basic

/-!
Parts of a list or a text, each with what stands around it, and the bytes that a part of a text
takes. A part of a text is known by its bytes.
-/

namespace CardGame.Text

/-- A run of items somewhere in a list, with what stands before it and after it. -/
structure Part {α : Type} (whole : List α) where
  before : List α
  piece : List α
  after : List α
  isWhole : whole = before ++ piece ++ after

namespace Part

variable {α : Type} {whole : List α}

def start (a : Part whole) : Nat :=
  a.before.length

def stop (a : Part whole) : Nat :=
  a.before.length + a.piece.length

def behind (front : List α) (a : Part whole) : Part (front ++ whole) where
  before := front ++ a.before
  piece := a.piece
  after := a.after
  isWhole := (congrArg (front ++ ·) a.isWhole).trans (by simp only [List.append_assoc])

theorem length_eq (a : Part whole) : whole.length = a.stop + a.after.length := by
  rw [congrArg List.length a.isWhole, List.length_append, List.length_append, stop]

theorem getElem?_stop (a : Part whole) : whole[a.stop]? = a.after.head? := by
  obtain ⟨front, piece, back, rfl⟩ := a
  rw [stop, ← List.length_append, List.getElem?_append_right (Nat.le_refl _), Nat.sub_self,
    List.head?_eq_getElem?]

theorem isWhole_right (a : Part whole) : whole = a.before ++ (a.piece ++ a.after) :=
  a.isWhole.trans (List.append_assoc _ _ _)

theorem eq_of_before_of_piece {a b : Part whole} (before : a.before = b.before)
    (piece : a.piece = b.piece) : a = b := by
  obtain ⟨front, items, after, isWhole⟩ := a
  obtain ⟨front', items', after', isWhole'⟩ := b
  obtain rfl : front = front' := before
  obtain rfl : items = items' := piece
  obtain rfl := List.append_cancel_left (isWhole.symm.trans isWhole')
  rfl

theorem eq_of_indices {a b : Part whole} (start : a.start = b.start) (stop : a.stop = b.stop) :
    a = b := by
  simp only [Part.start, Part.stop] at start stop
  obtain ⟨before, rest⟩ := List.append_inj (a.isWhole_right.symm.trans b.isWhole_right) start
  exact eq_of_before_of_piece before (List.append_inj_left rest (by omega))

end Part

theorem cut_cases {α : Type} {front back first second : List α}
    (both : front ++ back = first ++ second) :
    front = [] ∨ (∃ x, front = first ++ x ∧ second = x ++ back) ∨
      ∃ c x d y, front = c :: x ∧ first = c :: x ++ d :: y ∧ back = d :: y ++ second := by
  obtain ⟨y, inFirst, rest⟩ | ⟨x, inSecond, rest⟩ := List.append_eq_append_iff.1 both
  · match front, y with
    | [], _ => exact .inl rfl
    | front, [] =>
      exact .inr (.inl ⟨[], by simpa using inFirst.symm, by simpa using rest.symm⟩)
    | c :: x, d :: y => exact .inr (.inr ⟨c, x, d, y, rfl, inFirst, rest⟩)
  · exact .inr (.inl ⟨x, inSecond, rest⟩)

/-! ### Bytes -/

theorem byteSize_pos {cs : List Char} (some : cs ≠ []) : 0 < byteSize cs := by
  obtain ⟨c, rest, rfl⟩ := List.exists_cons_of_ne_nil some
  have first := c.utf8Size_pos
  rw [byteSize_cons]
  omega

theorem byteSize_toList (text : String) : byteSize text.toList = text.utf8ByteSize := by
  have encoded (cs : List Char) : byteSize cs = cs.utf8Encode.size := by
    induction cs with
    | nil => rfl
    | cons c cs ih => simpa [List.utf8Encode] using ih
  rw [encoded, String.utf8Encode_toList]
  rfl

theorem append_inj_of_byteSize {a b c d : List Char} (whole : a ++ b = c ++ d)
    (size : byteSize a = byteSize c) : a = c ∧ b = d := by
  have nothing {x : List Char} (h : byteSize x = 0) : x = [] := by
    by_contra some
    have := byteSize_pos some
    omega
  obtain ⟨x, rfl, rfl⟩ | ⟨x, rfl, rfl⟩ := List.append_eq_append_iff.1 whole
  all_goals
    rw [byteSize_append] at size
    simp [nothing (show byteSize x = 0 by omega)]

def Span.Within (a b : Span) : Prop :=
  b.start ≤ a.start ∧ a.stop ≤ b.stop

def Span.Covers (a : Span) (byte : Nat) : Prop :=
  a.start ≤ byte ∧ byte < a.stop

theorem Span.Within.trans {a b c : Span} (h : a.Within b) (h' : b.Within c) : a.Within c :=
  ⟨Nat.le_trans h'.1 h.1, Nat.le_trans h.2 h'.2⟩

theorem Span.Within.antisymm {a b : Span} (h : a.Within b) (h' : b.Within a) : a = b := by
  obtain ⟨start, stop⟩ := a
  obtain ⟨start', stop'⟩ := b
  simp only [Within, Span.mk.injEq] at *
  omega

namespace Part

variable {cs : List Char}

def spanFrom (offset : Nat) (a : Part cs) : Span :=
  ⟨offset + byteSize a.before, offset + byteSize a.before + byteSize a.piece⟩

def span (a : Part cs) : Span :=
  a.spanFrom 0

theorem spanFrom_behind (offset : Nat) (front : List Char) (a : Part cs) :
    (a.behind front).spanFrom offset = a.spanFrom (offset + byteSize front) := by
  simp only [spanFrom, behind, byteSize_append, Nat.add_assoc]

theorem eq_of_span {a b : Part cs} (same : a.span = b.span) : a = b := by
  simp only [span, spanFrom, Span.mk.injEq, Nat.zero_add] at same
  obtain ⟨before, rest⟩ :=
    append_inj_of_byteSize (a.isWhole_right.symm.trans b.isWhole_right) same.1
  rw [before] at same
  exact eq_of_before_of_piece before (append_inj_of_byteSize rest (by omega)).1

theorem mem_piece_of_covers (a b : Part cs) {c : Char} (one : b.piece = [c])
    {byte : Nat} (inPart : a.span.Covers byte) (inside : b.span.Covers byte) : c ∈ a.piece := by
  obtain ⟨front, piece, back, parts⟩ := a
  obtain ⟨before, _, after, whole⟩ := b
  subst one
  simp only [span, spanFrom, Span.Covers, Nat.zero_add, byteSize_cons, byteSize_nil,
    Nat.add_zero] at inPart inside ⊢
  rw [whole, List.append_assoc, List.append_assoc, List.singleton_append] at parts
  obtain ⟨x, rfl, rest⟩ | ⟨x, rfl, rest⟩ := List.append_eq_append_iff.1 parts
  · -- The part begins at the character or after it.
    cases x with
    | nil =>
      cases piece with
      | nil =>
        simp only [byteSize_nil, byteSize_append] at inPart
        omega
      | cons d piece =>
        obtain ⟨rfl, -⟩ := List.cons.inj rest
        exact List.mem_cons_self
    | cons d x =>
      obtain ⟨rfl, -⟩ := List.cons.inj rest
      simp only [byteSize_append, byteSize_cons] at inPart
      omega
  · -- The part begins before the character.
    obtain ⟨y, rfl, -⟩ | ⟨y, rfl, follows⟩ := List.append_eq_append_iff.1 rest
    · simp only [byteSize_append] at inside
      omega
    cases y with
    | nil =>
      simp only [byteSize_append, byteSize_nil] at inPart inside
      omega
    | cons d y =>
      obtain ⟨rfl, -⟩ := List.cons.inj follows
      simp

end Part

end CardGame.Text
