import OperandStack.Stack.Basic

/-! # Stack operations through the list of values

Every stack is `ofList` of its values from the bottom up. One equation per operation says what it
does to that list, on success for a stack written with the values it touches at the end, and on
failure for a stack too shallow for it. Proofs about runs use these and do not open an operation.
-/

universe u v

namespace OperandStack.Stack

variable {α : Type u} {β : Type v}

/-! ## The list of values -/

@[simp] theorem toList_empty : (empty : Stack α).toList = [] := rfl

@[simp] theorem toList_ofList (values : List α) : (ofList values).toList = values := rfl

@[simp] theorem toList_ofArray (items : Array α) : (ofArray items).toList = items.toList := rfl

@[simp] theorem ofList_toList (s : Stack α) : ofList s.toList = s := rfl

@[simp] theorem ofList_nil : ofList ([] : List α) = empty := rfl

theorem toList_injective {s t : Stack α} (same : s.toList = t.toList) : s = t := by
  rw [← ofList_toList s, ← ofList_toList t, same]

@[simp] theorem length_toList (s : Stack α) : s.toList.length = s.size := rfl

@[simp] theorem size_empty : (empty : Stack α).size = 0 := rfl

@[simp] theorem size_ofList (values : List α) : (ofList values).size = values.length := rfl

theorem isEmpty_eq (s : Stack α) : s.isEmpty = s.toList.isEmpty := by
  cases s with
  | mk items => simp [isEmpty, toList]

/-! ## Adding values -/

@[simp] theorem push_ofList (values : List α) (value : α) :
    (ofList values).push value = ofList (values ++ [value]) := by
  simp [push, ofList]

@[simp] theorem pushAll_ofList (values added : List α) :
    (ofList values).pushAll added = ofList (values ++ added) := by
  simp [pushAll, ofList]

@[simp] theorem toList_push (s : Stack α) (value : α) :
    (s.push value).toList = s.toList ++ [value] := by
  simp [push, toList]

@[simp] theorem toList_pushAll (s : Stack α) (values : List α) :
    (s.pushAll values).toList = s.toList ++ values := by
  simp [pushAll, toList]

@[simp] theorem toList_extend (s : Stack α) (source : List α) :
    (s.extend source).toList = s.toList ++ source := toList_pushAll s source

/-! ## One-value operations -/

@[simp] theorem peek_empty : (empty : Stack α).peek = .error (.emptyStack "peek") := rfl

@[simp] theorem pop_empty : (empty : Stack α).pop = ⟨.error (.emptyStack "pop"), empty⟩ := rfl

@[simp] theorem drop_empty : (empty : Stack α).drop = ⟨.error (.emptyStack "drop"), empty⟩ := rfl

@[simp] theorem dup_empty : (empty : Stack α).dup = ⟨.error (.emptyStack "dup"), empty⟩ := rfl

theorem peek_concat (below : List α) (a : α) : (ofList (below ++ [a])).peek = .ok a := by
  simp [peek, ofList]

theorem pop_concat (below : List α) (a : α) :
    (ofList (below ++ [a])).pop = ⟨.ok a, ofList below⟩ := by
  simp [pop, ofList]

/-- A pop takes the last value off or is refused by the empty stack. -/
theorem pop_cases (s : Stack α) :
    (∃ below top, s = ofList (below ++ [top]) ∧ s.pop = ⟨.ok top, ofList below⟩) ∨
      s = empty ∧ s.pop = ⟨.error (.emptyStack "pop"), empty⟩ := by
  rcases List.eq_nil_or_concat s.toList with none | ⟨below, top, shape⟩
  · obtain rfl : s = empty := toList_injective none
    exact .inr ⟨rfl, rfl⟩
  · obtain rfl : s = ofList (below ++ [top]) := toList_injective (by simpa using shape)
    exact .inl ⟨below, top, rfl, pop_concat below top⟩

theorem drop_concat (below : List α) (a : α) :
    (ofList (below ++ [a])).drop = ⟨.ok (), ofList below⟩ := by
  simp [drop, ofList]

theorem dup_concat (below : List α) (a : α) :
    (ofList (below ++ [a])).dup = ⟨.ok (), ofList (below ++ [a, a])⟩ := by
  simp [dup, ofList, push]

/-! ## Depth checks -/

theorem require_of_le {s : Stack α} {depth : Nat} {op : String} (enough : depth ≤ s.size) :
    s.require depth op = .ok () := by
  simp [require, Nat.not_lt.mpr enough]

theorem require_of_lt {s : Stack α} {depth : Nat} {op : String} (shallow : s.size < depth) :
    s.require depth op = .error (.insufficientDepth op depth s.size) := by
  simp [require, shallow]

theorem withDepth_of_lt {s : Stack α} {depth : Nat} {op : String} (shallow : s.size < depth)
    (act : depth ≤ s.size → Outcome α β) :
    s.withDepth depth op act = ⟨.error (.insufficientDepth op depth s.size), s⟩ :=
  dif_neg (Nat.not_le.mpr shallow)

theorem withDepth_of_le {s : Stack α} {depth : Nat} {op : String} (enough : depth ≤ s.size)
    (act : depth ≤ s.size → Outcome α β) : s.withDepth depth op act = act enough :=
  dif_pos enough

/-! ## Operations that check the depth -/

theorem popMany_of_lt {s : Stack α} {count : Nat} (shallow : s.size < count) :
    s.popMany count = ⟨.error (.insufficientDepth "pop_n" count s.size), s⟩ :=
  withDepth_of_lt shallow _

theorem popMany_append (below above : List α) :
    (ofList (below ++ above)).popMany above.length = ⟨.ok above.reverse, ofList below⟩ := by
  rw [popMany, withDepth_of_le (by simp)]
  simp [ofList, size, List.extract_eq_take_drop]

theorem swap_of_lt {s : Stack α} (shallow : s.size < 2) :
    s.swap = ⟨.error (.insufficientDepth "swap" 2 s.size), s⟩ := withDepth_of_lt shallow _

theorem swap_concat (below : List α) (a b : α) :
    (ofList (below ++ [a, b])).swap = ⟨.ok (), ofList (below ++ [b, a])⟩ := by
  rw [swap, withDepth_of_le (by simp)]
  simp [ofList]

theorem rshift_of_lt {s : Stack α} (shallow : s.size < 3) :
    s.rshift = ⟨.error (.insufficientDepth "rshift" 3 s.size), s⟩ := withDepth_of_lt shallow _

theorem rshift_concat (below : List α) (a b c : α) :
    (ofList (below ++ [a, b, c])).rshift = ⟨.ok (), ofList (below ++ [c, a, b])⟩ := by
  rw [rshift, withDepth_of_le (by simp)]
  simp [ofList]

end OperandStack.Stack
