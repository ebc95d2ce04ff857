import OperandStack.Traversal.Basic
import OperandStack.Stack.Lemmas

/-! # Traversal moves through the list of values left

A traversal starts with the stack's values from the top down. Taking from the front removes the
head of the values left, taking from the back removes the last of them, and passing over values is
`drop` and `take`.
-/

universe u

namespace OperandStack

namespace Traversal

variable {α : Type u}

@[simp] theorem length_toList (t : Traversal α) : t.toList.length = t.size := by
  have bound := t.stop_le_size
  simp only [toList, size, List.length_reverse, Array.length_toList, Array.size_extract]
  omega

/-- Position `i` from the front is slot `i + 1` below the end of the window. -/
theorem getElem?_toList (t : Traversal α) (i : Nat) :
    t.toList[i]? = if i < t.size then t.items[t.stop - 1 - i]? else none := by
  have bound := t.stop_le_size
  by_cases inside : i < t.size
  · have small : i < t.stop - t.bottom := inside
    rw [if_pos inside, toList,
      List.getElem?_reverse (by simp only [Array.length_toList, Array.size_extract]; omega)]
    simp only [Array.length_toList, Array.size_extract, Array.getElem?_toList,
      Array.getElem?_extract]
    rw [if_pos (by omega)]
    congr 1
    omega
  · rw [if_neg inside, List.getElem?_eq_none (by rw [length_toList]; omega)]

theorem toList_skip (t : Traversal α) (count : Nat) :
    (t.skip count).toList = t.toList.drop count := by
  have size_skip : (t.skip count).size = t.size - count := by
    simp only [skip, size]
    omega
  apply List.ext_getElem?
  intro i
  simp only [List.getElem?_drop, getElem?_toList, size_skip]
  by_cases inside : i < t.size - count
  · have left : count < t.stop - t.bottom := by
      simp only [size] at inside
      omega
    rw [if_pos inside, if_pos (by omega)]
    simp only [skip]
    congr 1
    omega
  · rw [if_neg inside, if_neg (by omega)]

theorem toList_skipBack (t : Traversal α) (count : Nat) :
    (t.skipBack count).toList = t.toList.take (t.size - count) := by
  have size_skipBack : (t.skipBack count).size = t.size - count := by
    simp only [skipBack, size]
    omega
  apply List.ext_getElem?
  intro i
  simp only [List.getElem?_take, getElem?_toList, size_skipBack]
  by_cases inside : i < t.size - count
  · rw [if_pos inside, if_pos inside, if_pos (by omega)]
    rfl
  · rw [if_neg inside, if_neg inside]

/-- Without values left, the bounds of the window meet. -/
theorem size_pos_iff (t : Traversal α) : 0 < t.size ↔ t.bottom < t.stop := by
  simp only [size]
  omega

theorem fst_next (t : Traversal α) : t.next.1 = t.toList.head? := by
  have bound := t.stop_le_size
  rw [List.head?_eq_getElem?, getElem?_toList, next]
  by_cases left : t.bottom < t.stop
  · rw [dif_pos left, if_pos (t.size_pos_iff.mpr left), Array.getElem?_eq_getElem (by omega)]
    rfl
  · rw [dif_neg left, if_neg (mt t.size_pos_iff.mp left)]

theorem toList_snd_next (t : Traversal α) : t.next.2.toList = t.toList.tail := by
  rw [← List.drop_one, ← toList_skip, next]
  by_cases left : t.bottom < t.stop
  · rw [dif_pos left]
    simp only [skip, toList]
    congr 3
    omega
  · rw [dif_neg left]
    simp only [skip, toList]
    have order := t.bottom_le_stop
    congr 3
    omega

theorem fst_back (t : Traversal α) : t.back.1 = t.toList.getLast? := by
  have bound := t.stop_le_size
  rw [List.getLast?_eq_getElem?, getElem?_toList, back, length_toList]
  by_cases left : t.bottom < t.stop
  · have positive := t.size_pos_iff.mpr left
    have last : t.stop - 1 - (t.size - 1) = t.bottom := by
      simp only [size] at positive ⊢
      omega
    rw [dif_pos left, if_pos (by omega), last, Array.getElem?_eq_getElem (by omega)]
  · rw [dif_neg left, if_neg (by have := mt t.size_pos_iff.mp left; omega)]

theorem toList_snd_back (t : Traversal α) : t.back.2.toList = t.toList.dropLast := by
  rw [List.dropLast_eq_take, length_toList, ← toList_skipBack, back]
  have order := t.bottom_le_stop
  by_cases left : t.bottom < t.stop
  · rw [dif_pos left]
    simp only [skipBack, toList]
    congr 3
    omega
  · rw [dif_neg left]
    simp only [skipBack, toList]
    congr 3
    omega

theorem fst_nth (t : Traversal α) (skipped : Nat) :
    (t.nth skipped).1 = (t.toList.drop skipped).head? := by
  rw [nth, fst_next, toList_skip]

theorem toList_snd_nth (t : Traversal α) (skipped : Nat) :
    (t.nth skipped).2.toList = t.toList.drop (skipped + 1) := by
  rw [nth, toList_snd_next, toList_skip, List.tail_drop]

theorem fst_nthBack (t : Traversal α) (skipped : Nat) :
    (t.nthBack skipped).1 = (t.toList.take (t.size - skipped)).getLast? := by
  rw [nthBack, fst_back, toList_skipBack]

theorem toList_snd_nthBack (t : Traversal α) (skipped : Nat) :
    (t.nthBack skipped).2.toList = t.toList.take (t.size - (skipped + 1)) := by
  rw [nthBack, toList_snd_back, toList_skipBack, List.dropLast_eq_take, List.take_take,
    List.length_take, length_toList]
  congr 1
  omega

theorem toList_snd_rest (t : Traversal α) : t.rest.2.toList = [] := by
  rw [rest, toList_skip, ← length_toList, List.drop_length]

theorem toList_snd_restBack (t : Traversal α) : t.restBack.2.toList = [] := by
  rw [restBack, toList_skipBack, Nat.sub_self, List.take_zero]

end Traversal

namespace Stack

variable {α : Type u}

@[simp] theorem toList_traverse (s : Stack α) : s.traverse.toList = s.toList.reverse := by
  simp [traverse, Traversal.toList, toList]

end Stack

end OperandStack
