import OperandStack.Proofs.Run
import OperandStack.Stack.Allocation

/-! # Equality is what programs can tell

Two stacks are equal if and only if no program tells them apart. Pops are enough for telling: they
read a stack from the top down and then fail, so that one pop more than the smaller of two stacks
holds values gives any difference away, be it at the bottom or in depth alone. The room that a stack
was made with is no part of it, and no program tells stacks apart that have just been made.
-/

universe u

namespace OperandStack

variable {α : Type u}

namespace Stack

/-- Stacks are compared slot by slot. -/
theorem beq_eq_isEqv [DecidableEq α] (s t : Stack α) :
    (s == t) = s.items.isEqv t.items fun first second => first == second := by
  have slotwise : (s.items.isEqv t.items fun first second => first == second) =
      (s.items == t.items) := rfl
  rw [slotwise, Bool.eq_iff_iff, beq_iff_eq, beq_iff_eq, Stack.mk.injEq]

/-! ## Stacks just made -/

/-- Tells that a stack has just been made, with room for values or without. -/
inductive Fresh [SlotWidth α] : Stack α → Prop
  | new : Fresh Stack.empty
  | default : Fresh default
  | withCapacity {capacity : Nat} {made : Stack α}
      (possible : Stack.withCapacity capacity = .ok made) : Fresh made
  | withConfig {config : Config} {made : Stack α}
      (possible : Stack.withConfig config = .ok made) : Fresh made

/-- Room is made as long as one allocation can hold it, and it is not seen. -/
theorem withCapacity_eq_ok_iff [SlotWidth α] (capacity : Nat) (made : Stack α) :
    withCapacity capacity = .ok made ↔
      capacity * SlotWidth.bytes α ≤ maxBytes ∧ made = empty := by
  rw [withCapacity]
  split
  · next possible =>
    rw [Except.ok.injEq, and_iff_right possible]
    exact eq_comm
  · next impossible => exact iff_of_false (fun made => nomatch made) fun both => impossible both.1

theorem exists_withCapacity_iff [SlotWidth α] (capacity : Nat) :
    (∃ made : Stack α, withCapacity capacity = .ok made) ↔
      capacity * SlotWidth.bytes α ≤ maxBytes := by
  simp only [withCapacity_eq_ok_iff, exists_and_left, exists_eq, and_true]

theorem Fresh.eq_empty [SlotWidth α] {made : Stack α} (fresh : Fresh made) : made = empty := by
  cases fresh with
  | new | default => rfl
  | withCapacity possible => exact ((withCapacity_eq_ok_iff _ _).mp possible).2
  | withConfig possible => exact ((withCapacity_eq_ok_iff _ _).mp possible).2

end Stack

namespace Program

/-! ## What pops tell -/

/-- The answer of a pop that meets a value, or none. -/
def popAnswer : Option α → Except StackError (Reply α)
  | some value => .ok (.value value)
  | none => .error (.emptyStack "pop")

theorem popAnswer_injective : Function.Injective (popAnswer (α := α)) := by
  intro first second same
  cases first <;> cases second <;> cases same <;> rfl

/-- Pops read a stack from the top down and fail from its bottom on. -/
theorem results_replicate_pop (count : Nat) (s : Stack α) :
    (run (List.replicate count .pop) s).map Response.result =
      (List.range count).map fun earlier => popAnswer s.toList.reverse[earlier]? := by
  induction count generalizing s with
  | zero => rfl
  | succ count ih =>
    rw [List.replicate_succ, run, List.map_cons, ih, List.range_succ_eq_map, List.map_cons,
      List.map_map]
    rcases Call.run_pop_cases s with ⟨below, top, rfl, popped⟩ | ⟨rfl, popped⟩
    · rw [popped, Stack.toList_ofList, Stack.toList_ofList, List.reverse_append]
      rfl
    · rw [popped]
      rfl

theorem getElem?_reverse_eq_of_pops {s t : Stack α} {count earlier : Nat} (inside : earlier < count)
    (same : (run (List.replicate count .pop) s).map Response.result =
      (run (List.replicate count .pop) t).map Response.result) :
    s.toList.reverse[earlier]? = t.toList.reverse[earlier]? := by
  rw [results_replicate_pop, results_replicate_pop] at same
  exact popAnswer_injective (List.map_inj_left.mp same earlier (List.mem_range.mpr inside))

/-- One pop more than the smaller of two stacks holds values tells whether they are equal. -/
theorem eq_of_results_pops {s t : Stack α}
    (same : (run (List.replicate (min s.size t.size + 1) .pop) s).map Response.result =
      (run (List.replicate (min s.size t.size + 1) .pop) t).map Response.result) : s = t := by
  have agree (earlier : Nat) (inside : earlier ≤ min s.size t.size) :
      s.toList.reverse[earlier]? = t.toList.reverse[earlier]? :=
    getElem?_reverse_eq_of_pops (Nat.lt_succ_of_le inside) same
  have none_iff (u : Stack α) (earlier : Nat) :
      u.toList.reverse[earlier]? = none ↔ u.size ≤ earlier := by
    rw [List.getElem?_eq_none_iff, List.length_reverse, Stack.length_toList]
  -- The pop behind the smaller stack fails on both, so neither is deeper than the other.
  have last : s.size ≤ min s.size t.size ↔ t.size ≤ min s.size t.size := by
    rw [← none_iff s, ← none_iff t, agree _ (Nat.le_refl _)]
  have depth : s.size = t.size := by omega
  apply Stack.toList_injective
  apply List.reverse_injective
  apply List.ext_getElem?
  intro earlier
  rcases Nat.lt_or_ge s.size earlier with beyond | inside
  · rw [(none_iff s earlier).mpr (by omega), (none_iff t earlier).mpr (by omega)]
  · exact agree earlier (by omega)

/-- Equality is what programs can tell. Whatever calls a program may be made of, if only pop is
among them, two stacks are equal if and only if every such program gets the same results from both;
and if they are not, pops alone tell, no more of them than the smaller stack holds values and one.
Stacks are compared slot by slot, and they are unequal where they are not equal. Room can be made
for as many values as one allocation holds, whether their number is given or a configuration says
it; stacks just made, with room or without, are equal, and every program gets the same results from
them and leaves the same stacks at every moment. -/
theorem equal_iff_indistinguishable [DecidableEq α] [SlotWidth α] :
    (∀ s t : Stack α,
      (∀ repertoire : Call α → Prop, repertoire .pop →
        ((s == t) = true ↔ ∀ program : Program α, (∀ call ∈ program, repertoire call) →
          (program.run s).map Response.result = (program.run t).map Response.result)) ∧
      ((s != t) = true → ∃ program : Program α, (∀ call ∈ program, call = .pop) ∧
        program.length ≤ min s.size t.size + 1 ∧
        (program.run s).map Response.result ≠ (program.run t).map Response.result) ∧
      (s == t) = (s.items.isEqv t.items fun first second => first == second) ∧
      (s != t) = !(s == t)) ∧
    (∀ capacity, (∃ made : Stack α, Stack.withCapacity capacity = .ok made) ↔
      capacity * SlotWidth.bytes α ≤ Stack.maxBytes) ∧
    (∀ config, (∃ made : Stack α, Stack.withConfig config = .ok made) ↔
      config.initialCapacity * SlotWidth.bytes α ≤ Stack.maxBytes) ∧
    ∀ made other : Stack α, made.Fresh → other.Fresh →
      (made == other) = true ∧ ∀ program : Program α,
        program.run made = program.run other ∧ program.final made = program.final other := by
  refine ⟨fun s t => ⟨?_, ?_, Stack.beq_eq_isEqv s t, rfl⟩, Stack.exists_withCapacity_iff,
    fun config => Stack.exists_withCapacity_iff config.initialCapacity, ?_⟩
  · intro repertoire pops
    constructor
    · intro equal program _
      rw [eq_of_beq equal]
    · intro same
      have told := same (List.replicate (min s.size t.size + 1) .pop) fun call member =>
        List.eq_of_mem_replicate member ▸ pops
      exact beq_iff_eq.mpr (eq_of_results_pops told)
  · intro unequal
    refine ⟨List.replicate (min s.size t.size + 1) .pop,
      fun call member => List.eq_of_mem_replicate member, Nat.le_of_eq List.length_replicate, ?_⟩
    intro same
    exact bne_iff_ne.mp unequal (eq_of_results_pops same)
  · intro made other fresh otherFresh
    rw [fresh.eq_empty, otherFresh.eq_empty]
    exact ⟨beq_self_eq_true _, fun program => ⟨rfl, rfl⟩⟩

/-- Stacks of stacks that differ only inside the value at the bottom, and stacks made with room. -/
theorem equal_iff_indistinguishable_for_nested_stacks :
    let s : Stack (Stack Char) := .ofList [.ofList ['a', 'b'], .empty]
    let t : Stack (Stack Char) := .ofList [.ofList ['a', 'c'], .empty]
    let standard : Call (Stack Char) → Prop := fun call =>
      call.confined = true ∨ call = .clear ∨ call = .size ∨ call = .isEmpty ∨
        call = .traverse [.rest]
    standard .pop ∧ (s != t) = true ∧
      ¬(∀ program : Program (Stack Char), (∀ call ∈ program, standard call) →
        (program.run s).map Response.result = (program.run t).map Response.result) ∧
      (∃ program : Program (Stack Char), (∀ call ∈ program, call = .pop) ∧ program.length ≤ 3 ∧
        (program.run s).map Response.result ≠ (program.run t).map Response.result) ∧
      Stack.withCapacity 1024 = .ok (.empty : Stack (Stack Char)) ∧
      Stack.withConfig ⟨7⟩ = .ok (.empty : Stack (Stack Char)) ∧
      ((.empty : Stack (Stack Char)) == .empty) = true := by
  intro s t standard
  have pops : standard .pop := .inl rfl
  have unequal : (s != t) = true := by decide
  have roomy : Stack.withCapacity 1024 = .ok (.empty : Stack (Stack Char)) := rfl
  have configured : Stack.withConfig ⟨7⟩ = .ok (.empty : Stack (Stack Char)) := rfl
  obtain ⟨compared, _, _, fresh⟩ := equal_iff_indistinguishable (α := Stack Char)
  obtain ⟨told, pop, _, _⟩ := compared s t
  refine ⟨pops, unequal, ?_, pop unequal, roomy, configured,
    (fresh _ _ (.withCapacity roomy) (.withConfig configured)).1⟩
  intro same
  exact bne_iff_ne.mp unequal (eq_of_beq ((told standard pops).mpr same))

end Program

end OperandStack
