import TypstPress.Yaml

/-!
# Where faults come from

A fault is what is wrong with a value and not with the format. Once the node of
a text is known, finding its value meets a fault only where the value of a
scalar is asked for, so every fault is that of one of the scalars below the node
(`constructs_of_value`). Which of several problems is reported depends on how
deep they are; the argument only needs that no other one is made up.
-/

namespace TypstPress.Yaml

/-! ## The problem of an outcome -/

/-- The problem of an outcome, if it has one. -/
def Outcome.problem? : Outcome α → Option Problem
  | .ok _ => none
  | .error s => some s.problem

namespace Outcome

theorem of_problem?_here {r : Except Problem α} {p : Problem} (h : (here r).problem? = some p) :
    r = .error p := by
  cases r with
  | ok a => cases h
  | error q =>
      cases h
      rfl

theorem problem?_below (x : Outcome α) : (below x).problem? = x.problem? := by
  cases x <;> rfl

theorem problem?_map (f : α → β) (x : Outcome α) :
    Outcome.problem? (x.map f) = x.problem? := by
  cases x <;> rfl

theorem of_problem?_both {x : Outcome α} {y : Outcome β} {p : Problem}
    (h : (both x y).problem? = some p) : x.problem? = some p ∨ y.problem? = some p := by
  cases x with
  | ok a =>
      cases y with
      | ok b => cases h
      | error t => exact Or.inr h
  | error s =>
      cases y with
      | ok b => exact Or.inl h
      | error t =>
          unfold both problem? at h
          simp only at h
          split at h
          · exact Or.inl h
          · exact Or.inr h

end Outcome

/-! ## Scalars -/

namespace Node

/-- The value of a scalar that may be asked for below a node. A mapping that
stands for a scalar has the text of its default; only where a moment is asked
for, its entries are taken for the text. -/
inductive Constructs : Node → Except Problem Value → Prop where
  | scalar (tag : Tag) (text : String) : Constructs (.scalar tag text) (scalarValue tag text)
  | item {tag : Tag} {items : List Node} {item : Node} {r : Except Problem Value} :
      item ∈ items → Constructs item r → Constructs (.sequence tag items) r
  | key {tag : Tag} {written : List (Node × Node)} {merged : Option (List (Node × Node))}
      {entry : Node × Node} {r : Except Problem Value} :
      entry ∈ written ∨ entry ∈ merged.getD [] → Constructs entry.1 r →
      Constructs (.mapping tag written merged) r
  | value {tag : Tag} {written : List (Node × Node)} {merged : Option (List (Node × Node))}
      {entry : Node × Node} {r : Except Problem Value} :
      entry ∈ written ∨ entry ∈ merged.getD [] → Constructs entry.2 r →
      Constructs (.mapping tag written merged) r
  | default {tag : Tag} {written : List (Node × Node)} {merged : Option (List (Node × Node))}
      {text : String} : firstDefault? written = some text →
      Constructs (.mapping tag written merged) (scalarValue tag text)
  | moment (written : List (Node × Node)) (merged : Option (List (Node × Node))) :
      Constructs (.mapping .timestamp written merged)
        (.error (.fault (Fault.wrongType "expected string or bytes-like object, got 'list'")))

variable {fault : Fault}

mutual

/-- A fault of the value of a node is the fault of a scalar. -/
theorem constructs_of_value {n : Node} (h : n.value.problem? = some (.fault fault)) :
    Constructs n (.error (.fault fault)) := by
  match n with
  | .enclosing =>
      rw [value] at h
      cases h
  | .scalar tag text =>
      rw [value] at h
      split at h
      · cases h
      · rw [← Outcome.of_problem?_here h]
        exact .scalar tag text
  | .sequence tag items =>
      unfold value at h
      split at h
      case h_1 =>
        rw [Outcome.problem?_below, Outcome.problem?_map] at h
        obtain ⟨item, hitem, hr⟩ := constructs_of_values h
        exact .item hitem hr
      case h_2 | h_3 =>
        rw [Outcome.problem?_below, Outcome.problem?_map] at h
        obtain ⟨item, hitem, hr⟩ := constructs_of_pairs h
        exact .item hitem hr
      all_goals cases h
  | .mapping tag written merged =>
      unfold value at h
      split at h
      case h_1 | h_2 =>
        rw [Outcome.problem?_below, Outcome.problem?_map] at h
        obtain ⟨entry, hentry, hr⟩ := constructs_of_mergedValues h
        exact hr.elim (.key (Or.inr hentry)) (.value (Or.inr hentry))
      case h_6 =>
        split at h
        · cases h
        · cases h
          exact .moment written merged
        · rw [← Outcome.of_problem?_here h]
          exact .default ‹_›
      all_goals cases h
termination_by sizeOf n

theorem constructs_of_values {items : List Node}
    (h : (values items).problem? = some (.fault fault)) :
    ∃ item ∈ items, Constructs item (.error (.fault fault)) := by
  match items with
  | [] =>
      rw [values] at h
      cases h
  | item :: items =>
      rw [values, Outcome.problem?_map] at h
      rcases Outcome.of_problem?_both h with h | h
      · exact ⟨item, List.mem_cons_self, constructs_of_value h⟩
      · obtain ⟨later, hlater, hr⟩ := constructs_of_values h
        exact ⟨later, List.mem_cons_of_mem item hlater, hr⟩
termination_by sizeOf items

theorem constructs_of_pairs {items : List Node}
    (h : (pairs items).problem? = some (.fault fault)) :
    ∃ item ∈ items, Constructs item (.error (.fault fault)) := by
  match items with
  | [] =>
      rw [pairs] at h
      cases h
  | item :: items =>
      rw [pairs, Outcome.problem?_map] at h
      rcases Outcome.of_problem?_both h with h | h
      · exact ⟨item, List.mem_cons_self, constructs_of_pair h⟩
      · obtain ⟨later, hlater, hr⟩ := constructs_of_pairs h
        exact ⟨later, List.mem_cons_of_mem item hlater, hr⟩
termination_by sizeOf items

theorem constructs_of_pair {n : Node} (h : (pair n).problem? = some (.fault fault)) :
    Constructs n (.error (.fault fault)) := by
  match n with
  | .mapping tag [(key, node)] merged =>
      rw [pair, Outcome.problem?_map] at h
      rcases Outcome.of_problem?_both h with h | h
      · exact .key (Or.inl List.mem_cons_self) (constructs_of_value h)
      · exact .value (Or.inl List.mem_cons_self) (constructs_of_value h)
  | .mapping tag [] merged | .mapping tag (_ :: _ :: _) merged | .enclosing | .scalar .. | .sequence .. =>
      rw [pair] at h
      cases h
      nofun
termination_by sizeOf n

theorem constructs_of_mergedValues {merged : Option (List (Node × Node))}
    (h : (mergedValues merged).problem? = some (.fault fault)) :
    ∃ entry ∈ merged.getD [], Constructs entry.1 (.error (.fault fault)) ∨
      Constructs entry.2 (.error (.fault fault)) := by
  match merged with
  | none =>
      rw [mergedValues] at h
      cases h
  | some entries =>
      rw [mergedValues] at h
      exact constructs_of_entryValues h
termination_by sizeOf merged

theorem constructs_of_entryValues {entries : List (Node × Node)}
    (h : (entryValues entries).problem? = some (.fault fault)) :
    ∃ entry ∈ entries, Constructs entry.1 (.error (.fault fault)) ∨
      Constructs entry.2 (.error (.fault fault)) := by
  match entries with
  | [] =>
      rw [entryValues] at h
      cases h
  | (key, node) :: entries =>
      rw [entryValues, Outcome.problem?_map] at h
      rcases Outcome.of_problem?_both h with h | h
      · rcases Outcome.of_problem?_both h with h | h
        · split at h
          · cases h
          · exact ⟨_, List.mem_cons_self, Or.inl (constructs_of_value h)⟩
        · exact ⟨_, List.mem_cons_self, Or.inr (constructs_of_value h)⟩
      · obtain ⟨later, hlater, hr⟩ := constructs_of_entryValues h
        exact ⟨later, List.mem_cons_of_mem _ hlater, hr⟩
termination_by sizeOf entries

end

end Node

/-- A text cannot be loaded because of a fault only if its tokens cannot be read
because of one, or if a scalar of its node has one. -/
theorem load_eq_fault {cs : List Char} {fault : Fault} (h : load cs = .error (.fault fault)) :
    Node.ofText? cs = .error (.fault fault) ∨
      ∃ root, Node.ofText? cs = .ok (some root) ∧
        Node.Constructs root (.error (.fault fault)) := by
  rw [load] at h
  cases hnode : Node.ofText? cs with
  | error p =>
      rw [hnode] at h
      cases h
      exact Or.inl rfl
  | ok found =>
      rw [hnode] at h
      cases found with
      | none => cases h
      | some root =>
          have hproblem : root.value.problem? = some (.fault fault) := by
            change root.value.mapError (·.problem) = _ at h
            cases hvalue : root.value with
            | ok v =>
                rw [hvalue] at h
                cases h
            | error s =>
                rw [hvalue] at h
                injection h with h
                exact congrArg some h
          exact Or.inr ⟨root, rfl, Node.constructs_of_value hproblem⟩

/-- The problem that loading a text meets, if it meets one. -/
def problemOf? (cs : List Char) : Option Problem :=
  match load cs with
  | .ok _ => none
  | .error p => some p

theorem load_of_problemOf? {cs : List Char} {p : Problem} (h : problemOf? cs = some p) :
    load cs = .error p := by
  unfold problemOf? at h
  split at h
  · cases h
  · next hload =>
      cases h
      exact hload

end TypstPress.Yaml
