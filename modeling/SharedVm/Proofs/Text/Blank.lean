import SharedVm.Text.Blank
import Mathlib.Data.List.TakeWhile

/-!
# Texts between blanks

Trimming takes off what is at either end, and what it leaves is what does not begin or end with
something that is taken off.
-/

namespace SharedVm.Text

variable {p : Symbol → Bool} {t front mid back : Text}

/-- What is taken off and what is left make up the text. -/
lemma exists_trim (p : Symbol → Bool) (t : Text) : ∃ front back, t = front ++ t.trim p ++ back ∧
    (∀ s ∈ front, p s = true) ∧ ∀ s ∈ back, p s = true := by
  let rest := (t.dropWhile p).reverse
  refine ⟨t.takeWhile p, (rest.takeWhile p).reverse, ?_, fun s => List.mem_takeWhile_imp, ?_⟩
  · have hrest : t.trim p ++ (rest.takeWhile p).reverse = t.dropWhile p := by
      rw [trim, ← List.reverse_append, List.takeWhile_append_dropWhile, List.reverse_reverse]
    rw [List.append_assoc, hrest, List.takeWhile_append_dropWhile]
  · exact fun s hs => List.mem_takeWhile_imp (List.mem_reverse.1 hs)

lemma dropWhile_eq_self (h : ∀ s ∈ t, p s = false) : t.dropWhile p = t := by
  cases t with
  | nil => rfl
  | cons s rest =>
    rw [List.dropWhile_cons, h s List.mem_cons_self]
    rfl

lemma trim_append (hf : ∀ s ∈ front, p s = true) (hb : ∀ s ∈ back, p s = true)
    (hm : ∀ s ∈ mid, p s = false) : (front ++ mid ++ back).trim p = mid := by
  have hreverse : ∀ s ∈ back.reverse, p s = true := fun s hs => hb s (List.mem_reverse.1 hs)
  rw [trim, List.append_assoc, List.dropWhile_append_of_pos hf]
  cases mid with
  | nil =>
    rw [List.nil_append, List.dropWhile_eq_nil_iff.2 hb]
    rfl
  | cons s rest =>
    have hs : (s :: rest ++ back).dropWhile p = s :: rest ++ back := by
      rw [List.cons_append, List.dropWhile_cons, hm s List.mem_cons_self]
      rfl
    rw [hs, List.reverse_append, List.dropWhile_append_of_pos hreverse,
      dropWhile_eq_self fun s hs => hm s (List.mem_reverse.1 hs), List.reverse_reverse]

lemma trim_eq_self (h : ∀ s ∈ t, p s = false) : t.trim p = t := by
  have ht : trim p ([] ++ t ++ []) = t := trim_append nofun nofun h
  rwa [List.nil_append, List.append_nil] at ht

end SharedVm.Text
