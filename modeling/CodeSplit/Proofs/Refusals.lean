/-
Module: CodeSplit.Proofs.Refusals
Purpose: when a call that changes groups under construction is refused, and what
  it leaves whether or not it is.
Main exports:
  Placement.Joined, Placement.Started, Placement.Admits, Placement.Adds,
  Placement.Guarded, Placement.guarded_changeAll
-/
import CodeSplit.Proofs.PlacementHistory

namespace CodeSplit.Placement

/-!
Members are added one after the other, so a list of them is not refused as a
whole: the members before the first one that has a group already stay where they
were put.  Only what was there before and these members make up what is left.
-/

variable {placement next after : Placement} {index : Nat} {member : Member}
variable {members rest : Group}

/-! ### What calls leave -/

/-- Members joined the group at an index, in their order, and nothing else
changed. -/
structure Joined (placement : Placement) (index : Nat) (members : Group)
    (after : Placement) : Prop where
  groups : after.groups = placement.groups.modify index (· ++ members)
  located : ∀ id, after.groupOf? id =
    if id ∈ Group.ids members then some index else placement.groupOf? id

/-- Members started a group behind the others, in their order, and nothing else
changed. -/
structure Started (placement : Placement) (members : Group)
    (after : Placement) : Prop where
  groups : after.groups = placement.groups ++ [members]
  located : ∀ id, after.groupOf? id =
    if id ∈ Group.ids members then some placement.groups.length
    else placement.groupOf? id

/-- Members can get a group together: no component is among them twice, and none
has a group. -/
structure Admits (placement : Placement) (members : Group) : Prop where
  distinct : (Group.ids members).Nodup
  free : ∀ id ∈ Group.ids members, placement.groupOf? id = none

theorem admits_nil (placement : Placement) : placement.Admits [] :=
  ⟨List.nodup_nil, by simp⟩

/-- What is refused has a component twice, or one that has a group. -/
theorem not_admits_iff :
    ¬ placement.Admits members ↔
      ¬ (Group.ids members).Nodup ∨
        ∃ id ∈ Group.ids members, placement.isPlaced id = true := by
  have free : (∀ id ∈ Group.ids members, placement.groupOf? id = none) ↔
      ¬ ∃ id ∈ Group.ids members, placement.isPlaced id = true := by
    simp [isPlaced]
  constructor
  · intro refused
    by_cases distinct : (Group.ids members).Nodup
    · right
      by_contra none_placed
      exact refused ⟨distinct, free.mpr none_placed⟩
    · exact Or.inl distinct
  · intro given admits
    rcases given with repeated | placed
    · exact repeated admits.distinct
    · exact free.mp admits.free placed

namespace Joined

theorem nil (placement : Placement) (index : Nat) :
    placement.Joined index [] placement where
  groups := by
    simp only [List.append_nil]
    exact (List.modify_id index placement.groups).symm
  located id := by simp

/-- Members that joined one after the other joined together. -/
theorem cons (first : placement.Joined index [member] next)
    (others : next.Joined index rest after) :
    placement.Joined index (member :: rest) after where
  groups := by
    rw [others.groups, first.groups, List.modify_modify_eq]
    simp [Function.comp_def]
  located id := by
    rw [others.located, first.located]
    by_cases among : id ∈ Group.ids rest <;> simp [among]

/-- Where a member joined that had no group, others can follow exactly if they
can get a group with it. -/
theorem admits_iff (joined : placement.Joined index [member] next)
    (free : placement.groupOf? member.id = none) :
    next.Admits rest ↔ placement.Admits (member :: rest) := by
  have located (id : ComponentId) : next.groupOf? id = none ↔
      id ≠ member.id ∧ placement.groupOf? id = none := by
    rw [joined.located]
    by_cases same : id = member.id <;> simp [same]
  constructor
  · intro admits
    constructor
    · apply List.nodup_cons.mpr
      refine ⟨fun again => ?_, admits.distinct⟩
      exact ((located member.id).mp (admits.free _ again)).1 rfl
    · intro id among
      rcases List.mem_cons.mp among with rfl | among
      · exact free
      · exact ((located id).mp (admits.free id among)).2
  · intro admits
    have distinct := List.nodup_cons.mp admits.distinct
    refine ⟨distinct.2, fun id among => (located id).mpr ⟨?_, ?_⟩⟩
    · rintro rfl
      exact distinct.1 among
    · exact admits.free id (List.mem_cons_of_mem _ among)

end Joined

/-! ### Adding one member -/

/-- A member is refused exactly if its component has a group. -/
theorem add_eq_error_iff (inRange : index < placement.groups.length)
    {fault : Fault} :
    placement.add index member = .error fault ↔
      ∃ earlier, placement.groupOf? member.id = some earlier ∧
        fault = .placedTwice member.id index earlier := by
  cases held : placement.groupOf? member.id with
  | none => simp [add, held, inRange]
  | some earlier =>
      rw [add_of_placed held]
      simp [eq_comm]

/-- A member that is not refused joins the group. -/
theorem joined_of_add (added : placement.add index member = .ok after) :
    placement.Joined index [member] after := by
  unfold add at added
  split at added
  · cases added
  · split at added
    · cases added
      refine ⟨rfl, fun id => ?_⟩
      rw [groupOf?, List.lookup_cons]
      by_cases same : id = member.id
      · simp [same]
      · simp [beq_false_of_ne same, same, groupOf?]
    · cases added

/-- A component without a group can join any. -/
theorem exists_add (inRange : index < placement.groups.length)
    (free : placement.groupOf? member.id = none) :
    ∃ after, placement.add index member = .ok after := by
  cases went : placement.add index member with
  | ok after => exact ⟨after, rfl⟩
  | error fault =>
      obtain ⟨earlier, held, _⟩ := (add_eq_error_iff inRange).mp went
      rw [free] at held
      cases held

/-! ### Adding several members -/

/-- How adding members to the group at an index ends. -/
inductive Adds (placement : Placement) (index : Nat) (members : Group) :
    Placement × Option Fault → Prop where
  /-- They all joined. -/
  | all {after : Placement} (admits : placement.Admits members)
      (joined : placement.Joined index members after) :
      Adds placement index members (after, none)
  /-- The members in front joined, and the next one has a group then. -/
  | upTo {after : Placement} {front back : Group} {refused : Member}
      {earlier : Nat} (parts : members = front ++ refused :: back)
      (admits : placement.Admits front)
      (joined : placement.Joined index front after)
      (held : after.groupOf? refused.id = some earlier) :
      Adds placement index members
        (after, some (.placedTwice refused.id index earlier))

/-- What happens to the members behind one that joined happens to all of them. -/
theorem Adds.cons {result : Placement × Option Fault}
    (free : placement.groupOf? member.id = none)
    (joined : placement.Joined index [member] next)
    (adds : next.Adds index rest result) :
    placement.Adds index (member :: rest) result := by
  cases adds with
  | all admits others =>
      exact .all ((joined.admits_iff free).mp admits) (joined.cons others)
  | upTo parts admits others held =>
      exact .upTo (by rw [parts, List.cons_append])
        ((joined.admits_iff free).mp admits) (joined.cons others) held

/-- Adding members to a group that is there ends in one of these ways. -/
theorem adds_addAll (inRange : index < placement.groups.length)
    (members : Group) :
    placement.Adds index members (placement.addAll index members) := by
  induction members generalizing placement with
  | nil => exact .all (admits_nil placement) (.nil placement index)
  | cons member rest ih =>
      cases held : placement.groupOf? member.id with
      | some earlier =>
          rw [addAll, add_of_placed held]
          exact .upTo (List.nil_append _).symm (admits_nil placement)
            (.nil placement index) held
      | none =>
          obtain ⟨next, added⟩ := exists_add inRange held
          have joined := joined_of_add added
          have room : index < next.groups.length := by
            rw [joined.groups, List.length_modify]
            exact inRange
          rw [addAll, added]
          exact .cons held joined (ih room)

/-- A member that has a group once those in front of it joined is among them, or
had a group before. -/
theorem Joined.mem_or_placed {front : Group} {id : ComponentId}
    {earlier : Nat} (joined : placement.Joined index front after)
    (held : after.groupOf? id = some earlier) :
    id ∈ Group.ids front ∨ placement.isPlaced id = true := by
  by_cases among : id ∈ Group.ids front
  · exact Or.inl among
  · rw [joined.located, if_neg among] at held
    exact Or.inr (by simp [isPlaced, held])

/-- Members are refused exactly if they cannot get a group together. -/
theorem Adds.refused_iff {result : Placement × Option Fault}
    (adds : placement.Adds index members result) :
    (∃ fault, result.2 = some fault) ↔ ¬ placement.Admits members := by
  cases adds with
  | all admits joined => simp [admits]
  | @upTo after front back refused earlier parts admits joined held =>
      apply iff_of_true ⟨_, rfl⟩
      intro admitted
      have distinct := admitted.distinct
      rw [parts, Group.ids_append, Group.ids_cons] at distinct
      rcases joined.mem_or_placed held with among | placed
      · exact (List.nodup_append.mp distinct).2.2 _ among _
          List.mem_cons_self rfl
      · have unplaced := admitted.free refused.id (by simp [parts])
        simp [isPlaced, unplaced] at placed

/-! ### Starting a group -/

/-- Starting a group opens one behind the others and adds the members to it. -/
theorem adds_push (some_member : members ≠ []) :
    Adds { placement with groups := placement.groups ++ [[]] }
      placement.groups.length members (placement.push members) := by
  rw [push, if_neg (by simpa using some_member)]
  exact adds_addAll (by simp) members

/-- What joined a group that was opened for it started that group. -/
theorem Joined.started
    (joined : Joined { placement with groups := placement.groups ++ [[]] }
      placement.groups.length members after) :
    placement.Started members after where
  groups := by
    rw [joined.groups, Group.modify_last]
    rfl
  located := joined.located

/-! ### Every history -/

/-- How the calls that change groups are guarded. -/
structure Guarded (placement : Placement) : Prop where
  /-- Adding to a group that is there is refused exactly if the component has a
  group. -/
  add_refused_iff : ∀ index member, index < placement.groups.length →
    ((∃ fault, placement.add index member = .error fault) ↔
      placement.isPlaced member.id = true)
  /-- What is refused changes nothing. -/
  add_refused : ∀ index member fault,
    placement.add index member = .error fault →
      placement.change (.add index member) = placement
  /-- What is not refused joins the group. -/
  add_accepted : ∀ index member after,
    placement.add index member = .ok after →
      placement.Joined index [member] after
  /-- Starting a group with members is refused exactly if a component is among
  them twice or has a group. -/
  push_refused_iff : ∀ members, members ≠ [] →
    ((∃ fault, (placement.push members).2 = some fault) ↔
      ¬ (Group.ids members).Nodup ∨
        ∃ id ∈ Group.ids members, placement.isPlaced id = true)
  /-- When it is refused, the members before the first one that repeats one of
  them or has a group stay in a group of their own. -/
  push_refused : ∀ members fault, (placement.push members).2 = some fault →
    ∃ front refused back, members = front ++ refused :: back ∧
      placement.Admits front ∧
      (refused.id ∈ Group.ids front ∨ placement.isPlaced refused.id = true) ∧
      placement.Started front (placement.push members).1
  /-- When it is not refused, all of them are in a group of their own. -/
  push_accepted : ∀ members, members ≠ [] →
    (placement.push members).2 = none →
      placement.Started members (placement.push members).1

theorem guarded (placement : Placement) : placement.Guarded where
  add_refused_iff index member inRange := by
    rw [isPlaced, Option.isSome_iff_exists]
    constructor
    · intro given
      rcases given with ⟨fault, refused⟩
      rcases (add_eq_error_iff inRange).mp refused with ⟨earlier, held, _⟩
      exact ⟨earlier, held⟩
    · intro given
      rcases given with ⟨earlier, held⟩
      exact ⟨_, (add_eq_error_iff inRange).mpr ⟨earlier, held, rfl⟩⟩
  add_refused index member fault refused := by
    rw [change, refused]
  add_accepted index member after := joined_of_add
  push_refused_iff members some_member := by
    rw [(adds_push some_member).refused_iff]
    exact not_admits_iff
  push_refused members fault refused := by
    have some_member : members ≠ [] := by
      rintro rfl
      cases refused
    generalize result : placement.push members = pushed at refused ⊢
    have adds := @adds_push placement members some_member
    rw [result] at adds
    cases adds with
    | all admits joined => cases refused
    | upTo parts admits joined held =>
        exact ⟨_, _, _, parts, ⟨admits.distinct, admits.free⟩,
          joined.mem_or_placed held, joined.started⟩
  push_accepted members some_member accepted := by
    generalize result : placement.push members = pushed at accepted ⊢
    have adds := @adds_push placement members some_member
    rw [result] at adds
    cases adds with
    | all admits joined => exact joined.started
    | upTo parts admits joined held => cases accepted

/-- Whatever was called before, refused calls included, the record tells for each
component the one group that holds it, and the calls to come are guarded. -/
theorem guarded_changeAll (changes : List Change) :
    (changeAll {} changes).Sound ∧ (changeAll {} changes).Guarded :=
  ⟨sound_changeAll changes, guarded _⟩

example :
    (changeAll {} [.push [{ id := 2 }],
      .push [{ id := 0 }, { id := 2 }, { id := 1 }],
      .add 1 { id := 1 }]).groups.map Group.ids = [[2], [0, 1]] := by
  decide

end CodeSplit.Placement
