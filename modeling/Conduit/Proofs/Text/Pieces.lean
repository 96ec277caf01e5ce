import Mathlib.Data.List.Infix
import Conduit.Proofs.Text.Encoded
set_option autoImplicit false

namespace Conduit.Text

section

variable {α : Type}

theorem modifyHead_append (change : List α → List α) {front : List (List α)} (some : front ≠ [])
    (back : List (List α)) : (front ++ back).modifyHead change = front.modifyHead change ++ back := by
  obtain ⟨piece, more, rfl⟩ := List.exists_cons_of_ne_nil some
  rfl

theorem prefix_intercalate (between piece : List α) (more : List (List α)) :
    piece <+: between.intercalate (piece :: more) := by
  cases more with
  | nil => rw [List.intercalate_singleton]
  | cons next more =>
    rw [List.intercalate_cons_cons, List.append_assoc]
    exact List.prefix_append _ _

theorem flatMap_intercalate {β : Type} (encode : α → List β) (between : List α) (parts : List (List α)) :
    (between.intercalate parts).flatMap encode =
      (between.flatMap encode).intercalate (parts.map (·.flatMap encode)) := by
  induction parts with
  | nil => rfl
  | cons part parts ih =>
    cases parts with
    | nil => simp only [List.intercalate_singleton, List.map_cons, List.map_nil]
    | cons next parts =>
      rw [List.intercalate_cons_cons, List.flatMap_append, List.flatMap_append, ih]
      simp only [List.map_cons, List.intercalate_cons_cons]

end

structure Mark (α : Type) where
  first : α
  second : α
  apart : first ≠ second

namespace Mark

variable {α : Type} [DecidableEq α] (mark : Mark α) {text : List α}

def symbols (mark : Mark α) : List α := [mark.first, mark.second]

def places (text : List α) : Nat := (text.zip text.tail).count (mark.first, mark.second)

def pieces : List α → List (List α)
  | [] => [[]]
  | [a] => [[a]]
  | a :: b :: rest =>
      if a = mark.first ∧ b = mark.second then [] :: pieces rest
      else (pieces (b :: rest)).modifyHead (a :: ·)

theorem places_cons_cons (a b : α) (rest : List α) :
    mark.places (a :: b :: rest) =
      mark.places (b :: rest) + if a = mark.first ∧ b = mark.second then 1 else 0 := by
  simp only [places, List.tail_cons, List.zip_cons_cons, List.count_cons, beq_iff_eq, Prod.mk.injEq]

theorem places_cons (a : α) (text : List α) :
    mark.places (a :: text) =
      mark.places text + if a = mark.first ∧ text.head? = some mark.second then 1 else 0 := by
  cases text with
  | nil => simp [places]
  | cons b rest => simp only [places_cons_cons, List.head?_cons, Option.some_inj]

theorem places_append_of_not_mem {front : List α} (absent : mark.first ∉ front) (back : List α) :
    mark.places (front ++ back) = mark.places back := by
  induction front with
  | nil => rfl
  | cons a front ih =>
    rw [List.mem_cons, not_or] at absent
    rw [List.cons_append, places_cons, ih absent.2, if_neg (fun same => absent.1 same.1.symm), Nat.add_zero]

theorem places_append_of_head? {back : List α} (head : back.head? ≠ some mark.second) (front : List α) :
    mark.places (front ++ back) = mark.places front + mark.places back := by
  induction front with
  | nil => simp [places]
  | cons a front ih =>
    cases front with
    | nil =>
      rw [List.singleton_append, places_cons, if_neg (fun same => head same.2), Nat.add_comm]
      rfl
    | cons b front =>
      rw [List.cons_append, List.cons_append, places_cons_cons, places_cons_cons, ← List.cons_append, ih,
        Nat.add_right_comm]

theorem places_eq_zero_iff : mark.places text = 0 ↔ ¬mark.symbols <:+: text := by
  induction text with
  | nil => simp [places, symbols]
  | cons a text ih =>
    have begins : mark.symbols <+: a :: text ↔ a = mark.first ∧ text.head? = some mark.second := by
      cases text with
      | nil => simp [symbols]
      | cons b text => simp [symbols, eq_comm]
    rw [places_cons, Nat.add_eq_zero_iff, ih, List.infix_cons_iff, begins, not_or, and_comm]
    simp

theorem pieces_ne_nil (text : List α) : mark.pieces text ≠ [] := by
  fun_induction pieces mark text with
  | case1 | case2 | case3 => exact List.cons_ne_nil _ _
  | case4 a b rest other ih => rwa [Ne, List.modifyHead_eq_nil_iff]

theorem pieces_mark (back : List α) :
    mark.pieces (mark.first :: mark.second :: back) = [] :: mark.pieces back := by
  rw [pieces, if_pos ⟨rfl, rfl⟩]

theorem pieces_append_mark (front back : List α) :
    mark.pieces (front ++ mark.first :: mark.second :: back) =
      mark.pieces front ++ mark.pieces back := by
  fun_induction pieces mark front with
  | case1 => exact pieces_mark mark back
  | case2 a =>
    -- The symbol before the mark makes no mark with the first symbol of it.
    have other : ¬(a = mark.first ∧ mark.first = mark.second) := fun same => mark.apart same.2
    rw [List.singleton_append, pieces, if_neg other, pieces_mark]
    rfl
  | case3 a b rest same ih =>
    rw [List.cons_append, List.cons_append, pieces, if_pos same, ih, List.cons_append]
  | case4 a b rest other ih =>
    rw [List.cons_append, List.cons_append, pieces, if_neg other, ← List.cons_append, ih,
      modifyHead_append _ (mark.pieces_ne_nil _)]

theorem pieces_of_places_eq_zero (none : mark.places text = 0) : mark.pieces text = [text] := by
  fun_induction pieces mark text with
  | case1 | case2 => rfl
  | case3 a b rest same ih =>
    rw [places_cons_cons, if_pos same] at none
    cases none
  | case4 a b rest other ih =>
    rw [places_cons_cons] at none
    rw [ih (Nat.eq_zero_of_add_eq_zero_right none)]
    rfl

theorem length_pieces (text : List α) : (mark.pieces text).length = mark.places text + 1 := by
  fun_induction pieces mark text with
  | case1 | case2 => rfl
  | case3 a b rest same ih =>
    have second : ¬(b = mark.first ∧ rest.head? = some mark.second) :=
      fun again => mark.apart (again.1.symm.trans same.2)
    rw [List.length_cons, ih, places_cons_cons, if_pos same, places_cons, if_neg second]
  | case4 a b rest other ih =>
    rw [List.length_modifyHead, ih, places_cons_cons, if_neg other]

theorem intercalate_pieces (text : List α) : mark.symbols.intercalate (mark.pieces text) = text := by
  fun_induction pieces mark text with
  | case1 | case2 => rfl
  | case3 a b rest same ih =>
    rw [List.intercalate_cons_of_ne_nil (mark.pieces_ne_nil _), ih, symbols, ← same.1, ← same.2]
    rfl
  | case4 a b rest other ih =>
    obtain ⟨piece, more, cut⟩ := List.exists_cons_of_ne_nil (mark.pieces_ne_nil (b :: rest))
    rw [cut] at ih
    rw [cut, List.modifyHead_cons, List.intercalate_cons_cons_left, ih]

theorem places_of_mem_pieces (text : List α) : ∀ piece ∈ mark.pieces text, mark.places piece = 0 := by
  fun_induction pieces mark text with
  | case1 | case2 =>
    rw [List.forall_mem_singleton]
    rfl
  | case3 a b rest same ih => exact List.forall_mem_cons.mpr ⟨rfl, ih⟩
  | case4 a b rest other ih =>
    obtain ⟨front, more, cut⟩ := List.exists_cons_of_ne_nil (mark.pieces_ne_nil (b :: rest))
    have begins : front <+: b :: rest := by
      rw [← mark.intercalate_pieces (b :: rest), cut]
      exact prefix_intercalate _ _ _
    -- The first piece goes on as the text does, so the symbol before it begins no mark either.
    have apart : ¬(a = mark.first ∧ front.head? = some mark.second) := by
      rintro ⟨first, second⟩
      cases front with
      | nil => cases second
      | cons c front =>
        rw [List.head?_cons, Option.some_inj] at second
        exact other ⟨first, (List.cons_prefix_cons.mp begins).1.symm.trans second⟩
    rw [cut, List.forall_mem_cons] at ih
    rw [cut, List.modifyHead_cons, List.forall_mem_cons, places_cons, ih.1, if_neg apart]
    exact ⟨rfl, ih.2⟩

theorem pieces_intercalate {parts : List (List α)} (some : parts ≠ [])
    (clean : ∀ part ∈ parts, mark.places part = 0) :
    mark.pieces (mark.symbols.intercalate parts) = parts := by
  induction parts with
  | nil => exact absurd rfl some
  | cons part parts ih =>
    obtain ⟨here, later⟩ := List.forall_mem_cons.mp clean
    cases parts with
    | nil => rw [List.intercalate_singleton, pieces_of_places_eq_zero mark here]
    | cons next parts =>
      have whole : mark.symbols.intercalate (part :: next :: parts) =
          part ++ mark.first :: mark.second :: mark.symbols.intercalate (next :: parts) := by
        rw [List.intercalate_cons_cons, List.append_assoc]
        rfl
      rw [whole, pieces_append_mark, ih (List.cons_ne_nil _ _) later, pieces_of_places_eq_zero mark here]
      rfl

theorem pieces_eq_iff {parts : List (List α)} :
    mark.pieces text = parts ↔
      parts ≠ [] ∧ mark.symbols.intercalate parts = text ∧ ∀ part ∈ parts, ¬mark.symbols <:+: part := by
  constructor
  next =>
    rintro rfl
    refine ⟨mark.pieces_ne_nil text, mark.intercalate_pieces text, fun part among => ?_⟩
    exact mark.places_eq_zero_iff.mp (mark.places_of_mem_pieces text part among)
  next =>
    rintro ⟨some, rfl, clean⟩
    exact mark.pieces_intercalate some fun part among => mark.places_eq_zero_iff.mpr (clean part among)

structure Encodes (bytes : Mark UInt8) (mark : Mark Char) : Prop where
  first : Spells bytes.first mark.first
  second : Spells bytes.second mark.second

namespace Encodes

variable {bytes : Mark UInt8} {mark : Mark Char}

theorem symbols_eq (encodes : bytes.Encodes mark) :
    mark.symbols.flatMap String.utf8EncodeChar = bytes.symbols := by
  simp [symbols, encodes.first.encode_eq, encodes.second.encode_eq]

theorem places_eq (encodes : bytes.Encodes mark) (text : List Char) :
    bytes.places (text.flatMap String.utf8EncodeChar) = mark.places text := by
  induction text with
  | nil => rfl
  | cons c rest ih =>
    rw [List.flatMap_cons, places_cons]
    by_cases here : c = mark.first
    next =>
      have next := encodes.second.head?_iff rest
      rw [here, encodes.first.encode_eq, List.singleton_append, places_cons, ih]
      simp only [next, true_and]
    next =>
      rw [places_append_of_not_mem _ (mt encodes.first.mem_iff.mp here), ih, if_neg (here ·.1), Nat.add_zero]

theorem pieces_eq (encodes : bytes.Encodes mark) (text : List Char) :
    bytes.pieces (text.flatMap String.utf8EncodeChar) =
      (mark.pieces text).map (·.flatMap String.utf8EncodeChar) := by
  obtain ⟨some, whole, clean⟩ := mark.pieces_eq_iff.mp (Eq.refl (mark.pieces text))
  refine bytes.pieces_eq_iff.mpr ⟨by simpa using some, ?_, ?_⟩
  next => rw [← encodes.symbols_eq, ← flatMap_intercalate, whole]
  next =>
    rw [List.forall_mem_map]
    intro piece among
    rw [← places_eq_zero_iff, encodes.places_eq, places_eq_zero_iff]
    exact clean piece among

end Encodes

end Mark

end Conduit.Text
