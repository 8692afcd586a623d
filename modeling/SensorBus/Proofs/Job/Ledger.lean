import SensorBus.Proofs.Job.Pool

/-!
Ledgers: the history of a pool whose members use a lock in turn. The history is a list of blocks,
each written by one member while it held the lock, so the block of a member that holds the lock is
the last one.
-/

namespace SensorBus

/-- What a ledger has to know of the members of a pool: how one must stand when it has written
certain blocks, and whether it holds the lock. -/
structure Bookkeeping (F α β : Type) where
  kept : Nat → Member F α → List β → Prop
  holds : Member F α → Bool

def own {β : Type} (i : Nat) (blocks : List (Nat × β)) : List β :=
  (blocks.filter (·.1 = i)).map Prod.snd

section

variable {F α β : Type}

@[simp] theorem own_concat_self (i : Nat) (blocks : List (Nat × β)) (block : β) :
    own i (blocks ++ [(i, block)]) = own i blocks ++ [block] := by
  simp [own]

theorem own_concat_of_ne {i j : Nat} (ne : i ≠ j) (blocks : List (Nat × β)) (block : β) :
    own j (blocks ++ [(i, block)]) = own j blocks := by
  simp [own, ne]

theorem mem_own {i : Nat} {blocks : List (Nat × β)} {block : β} :
    block ∈ own i blocks ↔ (i, block) ∈ blocks := by
  simp [own]

structure Ledger (K : Bookkeeping F α β) (members : List (Member F α)) (locked : Bool)
    (blocks : List (Nat × β)) (holder : Option Nat) : Prop where
  kept : ∀ i member, members[i]? = some member → K.kept i member (own i blocks)
  holds_iff : ∀ i, (∃ member, members[i]? = some member ∧ K.holds member = true) ↔ holder = some i
  locked : locked = holder.isSome
  last : ∀ i, holder = some i → ∃ past block, blocks = past ++ [(i, block)]
  owned : ∀ i block, (i, block) ∈ blocks → i < members.length

namespace Ledger

variable {K : Bookkeeping F α β} {members : List (Member F α)} {locked : Bool}
  {blocks : List (Nat × β)} {holder : Option Nat} {i : Nat} {member : Member F α}

theorem free_iff (ledger : Ledger K members locked blocks holder) :
    locked = false ↔ holder = none := by
  rw [ledger.locked]
  cases holder <;> simp

theorem eq_of_holds (ledger : Ledger K members locked blocks holder)
    (at_i : members[i]? = some member) (holds : K.holds member = true) :
    locked = true ∧ holder = some i := by
  have eq := (ledger.holds_iff i).1 ⟨member, at_i, holds⟩
  exact ⟨by rw [ledger.locked, eq]; rfl, eq⟩

theorem launch (kept : ∀ (i : Nat) member, members[i]? = some member → K.kept i member [])
    (free : ∀ (i : Nat) member, members[i]? = some member → K.holds member = false) :
    Ledger K members false [] none where
  kept := kept
  holds_iff i := by
    refine ⟨fun ⟨member, at_i, holds⟩ => ?_, fun h => nomatch h⟩
    simp [free i member at_i] at holds
  locked := rfl
  last _ h := nomatch h
  owned _ _ mem := nomatch mem

def holderAfter (K : Bookkeeping F α β) (i : Nat) (member : Member F α) : Option Nat :=
  if K.holds member then some i else none

theorem isSome_holderAfter (K : Bookkeeping F α β) (i : Nat) (member : Member F α) :
    (holderAfter K i member).isSome = K.holds member := by
  unfold holderAfter
  cases K.holds member <;> rfl

theorem holds_set_iff (lt : i < members.length)
    (others : ∀ j other, j ≠ i → members[j]? = some other → K.holds other = false)
    (member' : Member F α) (j : Nat) :
    (∃ other, (members.set i member')[j]? = some other ∧ K.holds other = true) ↔
      holderAfter K i member' = some j := by
  unfold holderAfter
  by_cases eq : j = i
  · subst eq
    cases holds : K.holds member' <;> simp [lt, holds]
  · have ne : i ≠ j := fun h => eq h.symm
    constructor
    · rintro ⟨other, at_j, holds⟩
      rw [List.getElem?_set_ne ne] at at_j
      simp [others j other eq at_j] at holds
    · intro h
      split at h
      · exact absurd (Option.some.inj h) ne
      · cases h

theorem others_free (ledger : Ledger K members locked blocks holder)
    (only : holder = none ∨ holder = some i) :
    ∀ j other, j ≠ i → members[j]? = some other → K.holds other = false := by
  intro j other ne at_j
  cases holds : K.holds other with
  | false => rfl
  | true =>
    have eq := (ledger.holds_iff j).1 ⟨other, at_j, holds⟩
    obtain none | some := only
    · simp [none] at eq
    · rw [some] at eq
      exact absurd (Option.some.inj eq).symm ne

theorem kept_set (ledger : Ledger K members locked blocks holder) (lt : i < members.length)
    {member' : Member F α} {blocks' : List (Nat × β)}
    (same : ∀ j, j ≠ i → own j blocks' = own j blocks) (kept : K.kept i member' (own i blocks')) :
    ∀ j other, (members.set i member')[j]? = some other → K.kept j other (own j blocks') := by
  intro j other at_j
  by_cases eq : j = i
  · subst eq
    rw [List.getElem?_set_self lt] at at_j
    cases at_j
    exact kept
  · rw [List.getElem?_set_ne fun h => eq h.symm] at at_j
    rw [same j eq]
    exact ledger.kept j other at_j

theorem quiet (ledger : Ledger K members locked blocks holder)
    (at_i : members[i]? = some member) {member' : Member F α} {locked' : Bool}
    (same : K.holds member' = K.holds member) (kept : K.kept i member' (own i blocks))
    (lock : locked' = locked) : Ledger K (members.set i member') locked' blocks holder where
  kept := ledger.kept_set (List.getElem?_eq_some_iff.1 at_i).1 (fun _ _ => rfl) kept
  holds_iff j := by
    rw [← ledger.holds_iff j]
    have lt := (List.getElem?_eq_some_iff.1 at_i).1
    by_cases eq : j = i
    · subst eq
      simp only [List.getElem?_set_self lt, at_i, Option.some.injEq, exists_eq_left', same]
    · simp [List.getElem?_set_ne fun h => eq h.symm]
  locked := lock.trans ledger.locked
  last := ledger.last
  owned := by simpa using ledger.owned

theorem append (ledger : Ledger K members locked blocks holder) (free : locked = false)
    (at_i : members[i]? = some member) {member' : Member F α} {block : β} {locked' : Bool}
    (kept : K.kept i member' (own i blocks ++ [block])) (lock : locked' = K.holds member') :
    Ledger K (members.set i member') locked' (blocks ++ [(i, block)])
      (holderAfter K i member') where
  kept := by
    refine ledger.kept_set (List.getElem?_eq_some_iff.1 at_i).1 (fun j ne => ?_) ?_
    · exact own_concat_of_ne (fun h => ne h.symm) blocks block
    · rwa [own_concat_self]
  holds_iff := holds_set_iff (List.getElem?_eq_some_iff.1 at_i).1
    (ledger.others_free (.inl (ledger.free_iff.1 free))) member'
  locked := lock.trans (isSome_holderAfter K i member').symm
  last j h := by
    unfold holderAfter at h
    split at h
    · cases h
      exact ⟨blocks, block, rfl⟩
    · cases h
  owned j other mem := by
    rw [List.length_set]
    obtain mem | mem := List.mem_append.1 mem
    · exact ledger.owned j other mem
    · cases List.mem_singleton.1 mem
      exact (List.getElem?_eq_some_iff.1 at_i).1

theorem rewrite (ledger : Ledger K members locked blocks holder)
    (at_i : members[i]? = some member) (holds : K.holds member = true) :
    ∃ past block, blocks = past ++ [(i, block)] ∧ own i blocks = own i past ++ [block] ∧
      ∀ (member' : Member F α) (block' : β) (locked' : Bool),
        K.kept i member' (own i past ++ [block']) → locked' = K.holds member' →
        Ledger K (members.set i member') locked' (past ++ [(i, block')])
          (holderAfter K i member') := by
  have eq := (ledger.eq_of_holds at_i holds).2
  obtain ⟨past, block, rfl⟩ := ledger.last i eq
  refine ⟨past, block, rfl, own_concat_self i past block,
    fun member' block' locked' kept lock => ?_⟩
  have lt := (List.getElem?_eq_some_iff.1 at_i).1
  constructor
  case kept =>
    refine ledger.kept_set lt (fun j ne => ?_) ?_
    · have ne' : i ≠ j := fun h => ne h.symm
      rw [own_concat_of_ne ne', own_concat_of_ne ne']
    · rwa [own_concat_self]
  case holds_iff => exact holds_set_iff lt (ledger.others_free (.inr eq)) member'
  case locked => exact lock.trans (isSome_holderAfter K i member').symm
  case last =>
    intro j h
    unfold holderAfter at h
    split at h
    · cases h
      exact ⟨past, block', rfl⟩
    · cases h
  case owned =>
    intro j other mem
    rw [List.length_set]
    obtain mem | mem := List.mem_append.1 mem
    · exact ledger.owned j other (List.mem_append_left _ mem)
    · cases List.mem_singleton.1 mem
      exact lt

end Ledger

end

end SensorBus
