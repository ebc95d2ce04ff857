import OperandStack.Proofs.Run

/-! # Places computed on machine words

A machine counts values in 64-bit words, has no numbers below zero, and panics where it is asked for
a place that does not exist. `Evaluation` carries an operation out in this way and lists the steps
that could panic. As every operation checks the depth before it computes a place, no step of any run
does, and the run answers as it does on unbounded numbers. The only assumption is that depths and
counts are words.
-/

universe u v

namespace OperandStack

variable {α : Type u}

/-- A step that is defined for some places only and panics for the others. -/
inductive Access where
  /-- The difference of two words. -/
  | difference (left right : UInt64)
  /-- Cutting `size` values in two at a place. -/
  | cut (place : UInt64) (size : Nat)
  /-- Exchanging the values at two places among `size`. -/
  | exchange (first second : UInt64) (size : Nat)
  /-- Reaching for the values from a place on, among `size`. -/
  | tail (start : UInt64) (size : Nat)
  /-- Turning `size` values to the right by a number of places. -/
  | turn (places : UInt64) (size : Nat)
deriving DecidableEq, Repr

namespace Access

/-- Tells that an access does not panic. -/
def Defined : Access → Prop
  | difference left right => right ≤ left
  | cut place size => place.toNat ≤ size
  | exchange first second size => first.toNat < size ∧ second.toNat < size
  | tail start size => start.toNat ≤ size
  | turn places size => places.toNat ≤ size

instance : DecidablePred Defined
  | difference left right => inferInstanceAs (Decidable (right ≤ left))
  | cut place size => inferInstanceAs (Decidable (place.toNat ≤ size))
  | exchange first second size =>
    inferInstanceAs (Decidable (first.toNat < size ∧ second.toNat < size))
  | tail start size => inferInstanceAs (Decidable (start.toNat ≤ size))
  | turn places size => inferInstanceAs (Decidable (places.toNat ≤ size))

/-- Tells that an access is what a stack has use for: an exchange is one of different places, and a
turn is one by one place among three values. -/
def Useful : Access → Prop
  | exchange first second _ => first ≠ second
  | turn places size => places = 1 ∧ size = 3
  | difference _ _ | cut _ _ | tail _ _ => True

/-- Tells that an access does not panic and is of use. -/
def Proper (access : Access) : Prop := access.Defined ∧ access.Useful

end Access

/-- What an evaluation comes to: the accesses that it makes, and its value unless the last of them
panics. -/
structure Evaluation (β : Type v) where
  accesses : List Access
  value? : Option β

namespace Evaluation

variable {β : Type u} {γ : Type v}

/-- The evaluation that makes no access. -/
def done (value : β) : Evaluation β := ⟨[], some value⟩

/-- The evaluation that makes one access. -/
def make (access : Access) (value : access.Defined → β) : Evaluation β :=
  ⟨[access], if defined : access.Defined then some (value defined) else none⟩

/-- Evaluates further with the value, if there is one. -/
def bind (first : Evaluation β) (next : β → Evaluation γ) : Evaluation γ :=
  match first.value? with
  | some value => ⟨first.accesses ++ (next value).accesses, (next value).value?⟩
  | none => ⟨first.accesses, none⟩

/-! ### Accesses -/

def difference (left right : UInt64) : Evaluation UInt64 :=
  make (.difference left right) fun _ => left - right

/-- The values before a place and those from it on. -/
def cut (items : Array β) (place : UInt64) : Evaluation (Array β × Array β) :=
  make (.cut place items.size) fun _ =>
    (items.take place.toNat, items.extract place.toNat items.size)

def exchange (items : Array β) (first second : UInt64) : Evaluation (Array β) :=
  make (.exchange first second items.size) fun inside =>
    items.swap first.toNat second.toNat inside.1 inside.2

def tail (items : Array β) (start : UInt64) : Evaluation (Array β) :=
  make (.tail start items.size) fun _ => items.extract start.toNat items.size

/-- The values with as many of the last as there are places put in front of the others. -/
def turnRight (items : Array β) (places : UInt64) : Evaluation (Array β) :=
  make (.turn places items.size) fun _ => (items.toList.rotateRight places.toNat).toArray

/-! ### Evaluations without a panic -/

/-- Tells that an evaluation makes proper accesses only and reaches a value. -/
structure Reaches (evaluation : Evaluation β) (value : β) : Prop where
  value_eq : evaluation.value? = some value
  proper : ∀ access ∈ evaluation.accesses, access.Proper

theorem Reaches.done (value : β) : (done value).Reaches value := ⟨rfl, nofun⟩

theorem Reaches.make (access : Access) (proper : access.Proper) (value : access.Defined → β) :
    (make access value).Reaches (value proper.1) := by
  refine ⟨dif_pos proper.1, ?_⟩
  intro other member
  rwa [List.mem_singleton.mp member]

theorem Reaches.bind {first : Evaluation β} {value : β} {next : β → Evaluation γ} {result : γ}
    (reached : first.Reaches value) (continued : (next value).Reaches result) :
    (first.bind next).Reaches result := by
  have shape : first.bind next =
      ⟨first.accesses ++ (next value).accesses, (next value).value?⟩ := by
    simp only [Evaluation.bind, reached.value_eq]
  rw [shape]
  refine ⟨continued.value_eq, ?_⟩
  intro access member
  rcases List.mem_append.mp member with before | after
  · exact reached.proper access before
  · exact continued.proper access after

theorem reaches_difference {left right : UInt64} (below : right ≤ left) :
    (difference left right).Reaches (left - right) :=
  .make (.difference left right) ⟨below, trivial⟩ _

example : (difference 2 3).value? = none := by decide

theorem reaches_cut {items : Array β} {word : UInt64} {place : Nat} (same : word.toNat = place)
    (inside : place ≤ items.size) :
    (cut items word).Reaches (items.take place, items.extract place items.size) := by
  subst same
  exact .make (.cut word items.size) ⟨inside, trivial⟩ _

theorem reaches_exchange {items : Array β} {first second : UInt64} {i j : Nat}
    (firstPlace : first.toNat = i) (secondPlace : second.toNat = j) (firstInside : i < items.size)
    (secondInside : j < items.size) (apart : i ≠ j) :
    (exchange items first second).Reaches (items.swap i j firstInside secondInside) := by
  subst firstPlace secondPlace
  have different : first ≠ second := fun same => apart (congrArg UInt64.toNat same)
  exact .make (.exchange first second items.size) ⟨⟨firstInside, secondInside⟩, different⟩ _

theorem reaches_tail {items : Array β} {word : UInt64} {place : Nat} (same : word.toNat = place)
    (inside : place ≤ items.size) : (tail items word).Reaches (items.extract place items.size) := by
  subst same
  exact .make (.tail word items.size) ⟨inside, trivial⟩ _

theorem reaches_turnRight {items : Array β} (three : items.size = 3) :
    (turnRight items 1).Reaches (items.toList.rotateRight 1).toArray := by
  have inside : (1 : UInt64).toNat ≤ items.size := by
    rw [three]
    decide
  exact .make (.turn 1 items.size) ⟨inside, rfl, three⟩ _

end Evaluation

/-! ## Operations -/

namespace Stack

open Evaluation

/-- The number of values as a word. -/
def depthWord (s : Stack α) : UInt64 := .ofNat s.size

def requireOnWords (s : Stack α) (depth : UInt64) (op : String) : Except StackError Unit :=
  if s.depthWord < depth then
    .error (.insufficientDepth op depth.toNat s.depthWord.toNat)
  else .ok ()

/-- Evaluates `act` on a stack that is deep enough, and refuses on behalf of `op` otherwise. -/
def guarded {β : Type v} (s : Stack α) (depth : UInt64) (op : String)
    (act : Evaluation (Outcome α β)) : Evaluation (Outcome α β) :=
  match s.requireOnWords depth op with
  | .ok _ => act
  | .error failure => done ⟨.error failure, s⟩

def popManyOnWords (s : Stack α) (count : UInt64) : Evaluation (Outcome α (List α)) :=
  s.guarded count "pop_n" <|
    (difference s.depthWord count).bind fun place =>
    (cut s.items place).bind fun parts =>
    done ⟨.ok parts.2.toList.reverse, ⟨parts.1⟩⟩

def swapOnWords (s : Stack α) : Evaluation (Outcome α Unit) :=
  s.guarded 2 "swap" <|
    (difference s.depthWord 1).bind fun top =>
    (difference s.depthWord 2).bind fun next =>
    (exchange s.items top next).bind fun items =>
    done ⟨.ok (), ⟨items⟩⟩

def rshiftOnWords (s : Stack α) : Evaluation (Outcome α Unit) :=
  s.guarded 3 "rshift" <|
    (difference s.depthWord 3).bind fun start =>
    (tail s.items start).bind fun top =>
    (turnRight top 1).bind fun turned =>
    done ⟨.ok (), ⟨s.items.take start.toNat ++ turned⟩⟩

section

variable {s : Stack α} (fits : s.size < UInt64.size)

include fits

theorem toNat_depthWord : s.depthWord.toNat = s.size := UInt64.toNat_ofNat_of_lt' fits

theorem le_depthWord_iff (count : UInt64) : count ≤ s.depthWord ↔ count.toNat ≤ s.size := by
  rw [UInt64.le_iff_toNat_le, toNat_depthWord fits]

/-- A place counted from the top is the same on words. -/
theorem toNat_place {count : UInt64} (enough : count.toNat ≤ s.size) :
    (s.depthWord - count).toNat = s.size - count.toNat := by
  rw [UInt64.toNat_sub_of_le _ _ ((le_depthWord_iff fits count).mpr enough), toNat_depthWord fits]

theorem requireOnWords_eq (depth : UInt64) (op : String) :
    s.requireOnWords depth op = s.require depth.toNat op := by
  have same : s.depthWord < depth ↔ s.size < depth.toNat := by
    rw [UInt64.lt_iff_toNat_lt, toNat_depthWord fits]
  rw [requireOnWords, require, toNat_depthWord fits]
  exact if_congr same rfl rfl

/-- What is guarded on words is guarded by the same depth. -/
theorem reaches_guarded {β : Type v} {depth : UInt64} {op : String}
    {evaluated : Evaluation (Outcome α β)} {act : depth.toNat ≤ s.size → Outcome α β}
    (reaches : ∀ enough, evaluated.Reaches (act enough)) :
    (s.guarded depth op evaluated).Reaches (s.withDepth depth.toNat op act) := by
  rw [guarded, requireOnWords_eq fits]
  rcases Nat.lt_or_ge s.size depth.toNat with shallow | enough
  · rw [require_of_lt shallow, withDepth_of_lt shallow]
    exact .done _
  · rw [require_of_le enough, withDepth_of_le enough]
    exact reaches enough

theorem reaches_place {count : UInt64} (enough : count.toNat ≤ s.size) :
    (difference s.depthWord count).Reaches (s.depthWord - count) :=
  reaches_difference ((le_depthWord_iff fits count).mpr enough)

theorem reaches_popMany (count : UInt64) :
    (s.popManyOnWords count).Reaches (s.popMany count.toNat) := by
  refine reaches_guarded fits fun enough => ?_
  have parts := reaches_cut (toNat_place fits enough)
    (Nat.sub_le _ _ : s.size - count.toNat ≤ s.items.size)
  exact .bind (reaches_place fits enough) (.bind parts (.done _))

theorem reaches_swap : s.swapOnWords.Reaches s.swap := by
  refine reaches_guarded fits fun enough => ?_
  have bound : 2 ≤ s.items.size := enough
  have one : (1 : UInt64).toNat ≤ s.size := Nat.le_of_succ_le bound
  have top : s.items.size - 1 < s.items.size := by omega
  have next : s.items.size - 2 < s.items.size := by omega
  have apart : s.items.size - 1 ≠ s.items.size - 2 := by omega
  have exchanged := reaches_exchange (toNat_place fits one) (toNat_place fits enough) top next apart
  exact .bind (reaches_place fits one) (.bind (reaches_place fits enough) (.bind exchanged (.done _)))

theorem reaches_rshift : s.rshiftOnWords.Reaches s.rshift := by
  refine reaches_guarded fits fun enough => ?_
  have whole : s.rshift = _ := withDepth_of_le enough _
  rw [← whole]
  have start := reaches_place fits enough
  have place := toNat_place fits enough
  obtain ⟨below, above, length, rfl⟩ := exists_eq_ofList_append enough
  obtain ⟨a, b, c, rfl⟩ := List.length_eq_three.mp length
  rw [size_ofList, List.length_append, length, Nat.add_sub_cancel] at place
  have inside : below.length ≤ (below ++ [a, b, c]).toArray.size := by simp
  have values : (below ++ [a, b, c]).toArray.extract below.length
      (below ++ [a, b, c]).toArray.size = #[a, b, c] := by simp
  have turned : (below ++ [a, b, c]).toArray.take below.length ++ #[c, a, b] =
      (below ++ [c, a, b]).toArray := by simp
  have top := reaches_tail place inside
  rw [values] at top
  rw [rshift_concat, ofList, ofList, ← turned, ← place]
  exact .bind start (.bind top (.bind (reaches_turnRight rfl) (.done _)))

end

end Stack

/-! ## Calls and programs -/

open Evaluation

namespace Call

/-- Evaluates a call. Only some calls compute places. -/
def evaluate (call : Call α) (s : Stack α) : Evaluation (Response α) :=
  match call with
  | popMany count => (s.popManyOnWords (.ofNat count)).bind fun out =>
    done (quiet (out.result.map .values) out.stack)
  | swap => s.swapOnWords.bind fun out =>
    done (quiet (out.result.map fun _ => .done) out.stack)
  | rshift => s.rshiftOnWords.bind fun out =>
    done (quiet (out.result.map fun _ => .done) out.stack)
  | require depth op =>
    done (quiet ((s.requireOnWords (.ofNat depth) op).map fun _ => .done) s)
  | apply .swap => s.swapOnWords.bind fun out =>
    done ⟨out.result.map fun _ => .done, out.stack, [Op.swap.event s]⟩
  | apply .rshift => s.rshiftOnWords.bind fun out =>
    done ⟨out.result.map fun _ => .done, out.stack, [Op.rshift.event s]⟩
  | call => done (call.run s)

theorem reaches_evaluate {call : Call α} {s : Stack α} (word : call.need < UInt64.size)
    (fits : s.size < UInt64.size) : (call.evaluate s).Reaches (call.run s) := by
  cases call with
  | popMany count =>
    have same : (UInt64.ofNat count).toNat = count := UInt64.toNat_ofNat_of_lt' word
    have taken := Stack.reaches_popMany fits (.ofNat count)
    rw [same] at taken
    exact .bind taken (.done _)
  | require depth op =>
    have same : (UInt64.ofNat depth).toNat = depth := UInt64.toNat_ofNat_of_lt' word
    rw [evaluate, Stack.requireOnWords_eq fits, same]
    exact .done _
  | swap => exact .bind (Stack.reaches_swap fits) (.done _)
  | rshift => exact .bind (Stack.reaches_rshift fits) (.done _)
  | apply op =>
    cases op with
    | swap => exact .bind (Stack.reaches_swap fits) (.done _)
    | rshift => exact .bind (Stack.reaches_rshift fits) (.done _)
    | drop | duplicate => exact .done _
  | push | pushAll | extend | extendFrom | collectFrom | pop | peek | dup | drop | clear | size
  | isEmpty | traverse => exact .done _

end Call

namespace Program

/-- Evaluates the calls of a program one after the other. -/
def evaluate : Program α → Stack α → Evaluation (List (Response α))
  | [], _ => done []
  | call :: rest, s =>
    (call.evaluate s).bind fun response =>
    (evaluate rest response.stack).bind fun later =>
    done (response :: later)

theorem reaches_evaluate {program : Program α} {s : Stack α}
    (words : ∀ call ∈ program, call.need < UInt64.size)
    (fits : ∀ moment < program.length, program.depthAt s moment < UInt64.size) :
    (program.evaluate s).Reaches (program.run s) := by
  induction program generalizing s with
  | nil => exact .done []
  | cons call rest ih =>
    obtain ⟨word, others⟩ := List.forall_mem_cons.mp words
    have here : s.size < UInt64.size := fits 0 (Nat.zero_lt_succ _)
    have later : ∀ moment < rest.length, depthAt rest (call.run s).stack moment < UInt64.size :=
      fun moment early => fits (moment + 1) (Nat.succ_lt_succ early)
    exact .bind (Call.reaches_evaluate word here) (.bind (ih others later) (.done _))

/-- No access panics, as long as depths and counts are words. Whatever program a stack comes from, a
call that is evaluated on it makes proper accesses only and answers as it does on numbers: every
difference is one of a word and a smaller one, every place lies within the values, places that are
exchanged differ, and a turn is one of three values. The same holds of the run of the program. -/
theorem no_access_panics (program : Program α) (s : Stack α)
    (fits : ∀ moment ≤ program.length, program.depthAt s moment < UInt64.size) :
    (∀ call : Call α, call.need < UInt64.size →
      (call.evaluate (program.final s)).Reaches (call.run (program.final s))) ∧
    ((∀ call ∈ program, call.need < UInt64.size) →
      (program.evaluate s).Reaches (program.run s)) := by
  refine ⟨?_, ?_⟩
  · intro call word
    have last := fits program.length (Nat.le_refl _)
    rw [depthAt, stackAt, List.take_length] at last
    exact Call.reaches_evaluate word last
  · intro words
    exact reaches_evaluate words fun moment early => fits moment (Nat.le_of_lt early)

/-- A run in which the last call is refused, and the greatest count there is after it. -/
theorem no_access_panics_up_to_greatest_count :
    let program : Program Char := [.push 'c', .swap, .rshift, .popMany 2, .apply .rshift]
    let s := Stack.ofList ['a', 'b']
    let greatest : Call Char := .popMany 0xffffffffffffffff
    (∀ moment ≤ program.length, program.depthAt s moment < UInt64.size) ∧
      (∀ call ∈ program, call.need < UInt64.size) ∧ greatest.need < UInt64.size ∧
      (program.evaluate s).Reaches (program.run s) ∧
      (program.evaluate s).accesses =
        [.difference 3 1, .difference 3 2, .exchange 2 1 3, .difference 3 3, .tail 0 3, .turn 1 3,
          .difference 3 2, .cut 1 3] ∧
      (greatest.evaluate (program.final s)).Reaches
        ⟨.error (.insufficientDepth "pop_n" 0xffffffffffffffff 1), .ofList ['b'], []⟩ := by
  intro program s greatest
  have fits : ∀ moment ≤ program.length, program.depthAt s moment < UInt64.size := by decide
  have words : ∀ call ∈ program, call.need < UInt64.size := by decide
  have word : greatest.need < UInt64.size := by decide
  have refused : greatest.run (program.final s) =
      ⟨.error (.insufficientDepth "pop_n" 0xffffffffffffffff 1), .ofList ['b'], []⟩ := by cbv
  obtain ⟨calls, run⟩ := no_access_panics program s fits
  have last := calls greatest word
  rw [refused] at last
  exact ⟨fits, words, word, run words, by decide, last⟩

end Program

end OperandStack
