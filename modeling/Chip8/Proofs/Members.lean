import Mathlib.Data.List.Basic
import Mathlib.Data.List.Forall2
import Mathlib.Data.List.Nodup
import Chip8.Json.Reader

/-!
The members of objects.  A document that has been read names each member of an object
once, at every depth: a name that comes again takes the place of the first.  Where no
name comes twice, the order of the members does not matter for what is found under a
name.
-/

namespace Chip8

theorem bind_eq_ok_iff {α β ε : Type} {first : Except ε α} {next : α → Except ε β} {result : β} :
    first >>= next = .ok result ↔ ∃ value, first = .ok value ∧ next value = .ok result := by
  cases first with
  | error failure => simp [bind, Except.bind]
  | ok value => simp [bind, Except.bind]

namespace Json

/-- No name comes twice. -/
def Distinct (members : List (Points × Value)) : Prop :=
  (members.map Prod.fst).Nodup

instance (members : List (Points × Value)) : Decidable (Distinct members) :=
  inferInstanceAs (Decidable (members.map Prod.fst).Nodup)

/-- In every object inside a value no name comes twice. -/
inductive Value.Unambiguous : Value → Prop where
  | null : Unambiguous .null
  | boolean (value : Bool) : Unambiguous (.boolean value)
  | integer (value : Int) : Unambiguous (.integer value)
  | real (value : Float) : Unambiguous (.real value)
  | text (value : Points) : Unambiguous (.text value)
  | array {items : List Value} (inside : ∀ item ∈ items, Unambiguous item) :
      Unambiguous (.array items)
  | object {members : List (Points × Value)} (distinct : Distinct members)
      (inside : ∀ member ∈ members, Unambiguous member.2) : Unambiguous (.object members)

/-! What is found under a name. -/

section Members

variable {members others : List (Points × Value)} {name : Points} {value : Value}

theorem member?_cons (member : Points × Value) :
    member? name (member :: members) =
      if name = member.1 then some member.2 else member? name members := by
  rw [member?, List.lookup_cons, member?]
  by_cases same : name = member.1
  · simp [same]
  · simp [same, beq_eq_false_iff_ne.mpr same]

theorem member?_eq_none_iff : member? name members = none ↔ name ∉ members.map Prod.fst := by
  induction members with
  | nil => simp [member?]
  | cons member rest ih =>
      rw [member?_cons, List.map_cons, List.mem_cons]
      by_cases same : name = member.1 <;> simp [same, ih]

theorem mem_of_member? (found : member? name members = some value) : (name, value) ∈ members := by
  induction members with
  | nil => simp [member?] at found
  | cons member rest ih =>
      rw [member?_cons] at found
      split at found
      next same =>
        obtain rfl := Option.some.inj found
        rw [same]
        exact List.mem_cons_self
      next => exact List.mem_cons_of_mem member (ih found)

theorem member?_eq_some_iff (distinct : Distinct members) :
    member? name members = some value ↔ (name, value) ∈ members := by
  refine ⟨mem_of_member?, fun inside => ?_⟩
  induction members with
  | nil => cases inside
  | cons member rest ih =>
      obtain ⟨fresh, distinct⟩ := List.nodup_cons.mp distinct
      rw [member?_cons]
      rcases List.mem_cons.mp inside with rfl | later
      · rw [if_pos rfl]
      · have other : name ≠ member.1 := fun same =>
          fresh (List.mem_map.mpr ⟨(name, value), later, same⟩)
        rw [if_neg other]
        exact ih distinct later

/-- The order of the members does not matter. -/
theorem member?_eq_of_perm (distinct : Distinct members) (reordered : members.Perm others) :
    member? name members = member? name others := by
  have distinct' : Distinct others := (reordered.map Prod.fst).nodup_iff.mp distinct
  apply Option.ext
  intro value
  rw [member?_eq_some_iff distinct, member?_eq_some_iff distinct', reordered.mem_iff]

theorem member?_without {dropped : Points} (other : name ≠ dropped) :
    member? name (members.filter fun member => member.1 != dropped) = member? name members := by
  induction members with
  | nil => rfl
  | cons member rest ih =>
      rw [member?_cons, List.filter_cons]
      by_cases gone : member.1 = dropped
      · have apart : name ≠ member.1 := fun same => other (same.trans gone)
        rw [if_neg apart, gone, bne_self_eq_false, if_neg Bool.false_ne_true, ih]
      · rw [if_pos (bne_iff_ne.mpr gone), member?_cons, ih]

end Members

/-! Documents that differ in the order of members only. -/

/-- The same value, but for the order in which an object names its members. -/
def Value.Reordered (first second : Value) : Prop :=
  first = second ∨
    ∃ members others, first = .object members ∧ second = .object others ∧ members.Perm others

/-- The same members, but for their order and for that inside of those that are
objects. -/
def Reordered (first second : List (Points × Value)) : Prop :=
  ∃ middle, first.Perm middle ∧
    List.Forall₂ (fun one other => one.1 = other.1 ∧ one.2.Reordered other.2) middle second

section Reordered

variable {first second middle : List (Points × Value)}

theorem map_fst_of_forall₂
    (same : List.Forall₂ (fun one other => one.1 = other.1 ∧ one.2.Reordered other.2)
      middle second) :
    middle.map Prod.fst = second.map Prod.fst := by
  induction same with
  | nil => rfl
  | cons here _ ih => rw [List.map_cons, List.map_cons, here.1, ih]

theorem member?_of_forall₂ (name : Points)
    (same : List.Forall₂ (fun one other => one.1 = other.1 ∧ one.2.Reordered other.2)
      middle second) :
    Option.Rel Value.Reordered (member? name middle) (member? name second) := by
  induction same with
  | nil => exact .none
  | cons here _ ih =>
      rw [member?_cons, member?_cons, ← here.1]
      split
      · exact .some here.2
      · exact ih

theorem Reordered.names_perm (same : Reordered first second) :
    (first.map Prod.fst).Perm (second.map Prod.fst) := by
  obtain ⟨middle, reordered, alike⟩ := same
  rw [← map_fst_of_forall₂ alike]
  exact reordered.map Prod.fst

theorem Reordered.member? (same : Reordered first second) (distinct : Distinct first)
    (name : Points) :
    Option.Rel Value.Reordered (member? name first) (member? name second) := by
  obtain ⟨middle, reordered, alike⟩ := same
  rw [member?_eq_of_perm distinct reordered]
  exact member?_of_forall₂ name alike

end Reordered

/-! What the reader makes is unambiguous. -/

theorem distinct_nil : Distinct [] := List.nodup_nil

theorem mem_insertMember {name : Points} {value : Value} {member : Points × Value}
    {members : List (Points × Value)} (inside : member ∈ insertMember name value members) :
    member = (name, value) ∨ member ∈ members := by
  induction members with
  | nil => exact .inl (List.mem_singleton.mp inside)
  | cons head rest ih =>
      rw [insertMember] at inside
      split at inside
      next same =>
        rcases List.mem_cons.mp inside with rfl | later
        · exact .inl (by rw [same])
        · exact .inr (List.mem_cons_of_mem head later)
      next =>
        rcases List.mem_cons.mp inside with rfl | later
        · exact .inr List.mem_cons_self
        · exact (ih later).imp_right (List.mem_cons_of_mem head)

theorem distinct_insertMember {name : Points} {value : Value} {members : List (Points × Value)}
    (distinct : Distinct members) : Distinct (insertMember name value members) := by
  induction members with
  | nil => exact List.nodup_singleton name
  | cons head rest ih =>
      obtain ⟨fresh, distinct⟩ := List.nodup_cons.mp distinct
      rw [insertMember]
      split
      next => exact List.nodup_cons.mpr ⟨fresh, distinct⟩
      next other =>
        refine List.nodup_cons.mpr ⟨fun again => ?_, ih distinct⟩
        obtain ⟨member, inside, same⟩ := List.mem_map.mp again
        rcases mem_insertMember inside with rfl | old
        · exact other same.symm
        · exact fresh (List.mem_map.mpr ⟨member, old, same⟩)

theorem unambiguous_of_readScalar {cursor after : Cursor} {value : Value}
    (reads : readScalar cursor = .ok (value, after)) : value.Unambiguous := by
  unfold readScalar at reads
  split at reads
  next word constant found =>
    obtain ⟨rfl, -⟩ := Prod.mk.inj (Except.ok.inj reads)
    have member := List.mem_of_find?_eq_some found
    simp only [constants, List.mem_cons, List.not_mem_nil, or_false, Prod.mk.injEq] at member
    rcases member with ⟨-, rfl⟩ | ⟨-, rfl⟩ | ⟨-, rfl⟩ | ⟨-, rfl⟩ | ⟨-, rfl⟩ | ⟨-, rfl⟩
    · exact .null
    all_goals constructor
  next =>
    unfold readNumber at reads
    dsimp only at reads
    split at reads
    next => cases reads
    next =>
      split at reads
      · obtain ⟨rfl, -⟩ := Prod.mk.inj (Except.ok.inj reads)
        exact .real _
      · split at reads
        · cases reads
        · obtain ⟨rfl, -⟩ := Prod.mk.inj (Except.ok.inj reads)
          exact .integer _

/-- What the reader makes with a bound on how far it may go: a value, the rest of an
object, and the rest of an array. -/
structure ReadsUnambiguous (bound : Nat) : Prop where
  value : ∀ {depth cursor value after},
    readValue bound depth cursor = .ok (value, after) → value.Unambiguous
  members : ∀ {depth cursor members value after}, Distinct members →
    (∀ member ∈ members, member.2.Unambiguous) →
    readMembers bound depth cursor members = .ok (value, after) → value.Unambiguous
  items : ∀ {depth cursor items value after}, (∀ item ∈ items, item.Unambiguous) →
    readItems bound depth cursor items = .ok (value, after) → value.Unambiguous

namespace ReadsUnambiguous

variable {bound depth : Nat} {cursor after : Cursor} {value : Value}

theorem readValue (within : ReadsUnambiguous bound)
    (reads : readValue (bound + 1) depth cursor = .ok (value, after)) : value.Unambiguous := by
  unfold Json.readValue at reads
  split at reads
  next =>
    obtain ⟨⟨text, behind⟩, -, ends⟩ := bind_eq_ok_iff.mp reads
    obtain ⟨rfl, -⟩ := Prod.mk.inj (Except.ok.inj ends)
    exact .text text
  next => cases reads
  next =>
    dsimp only at reads
    split at reads
    · obtain ⟨rfl, -⟩ := Prod.mk.inj (Except.ok.inj reads)
      exact .object distinct_nil (by simp)
    · exact within.members distinct_nil (by simp) reads
  next => cases reads
  next =>
    dsimp only at reads
    split at reads
    · obtain ⟨rfl, -⟩ := Prod.mk.inj (Except.ok.inj reads)
      exact .array (by simp)
    · exact within.items (by simp) reads
  next => exact unambiguous_of_readScalar reads

theorem readMembers (within : ReadsUnambiguous bound) {members : List (Points × Value)}
    (distinct : Distinct members) (inside : ∀ member ∈ members, member.2.Unambiguous)
    (reads : readMembers (bound + 1) depth cursor members = .ok (value, after)) :
    value.Unambiguous := by
  unfold Json.readMembers at reads
  split at reads
  next =>
    obtain ⟨⟨name, behind⟩, -, reads⟩ := bind_eq_ok_iff.mp reads
    dsimp only at reads
    split at reads
    next =>
      obtain ⟨⟨here, next⟩, readsHere, reads⟩ := bind_eq_ok_iff.mp reads
      have distinct' : Distinct (insertMember name here members) := distinct_insertMember distinct
      have inside' : ∀ member ∈ insertMember name here members, member.2.Unambiguous := by
        intro member added
        rcases mem_insertMember added with rfl | old
        · exact within.value readsHere
        · exact inside member old
      dsimp only at reads
      split at reads
      next =>
        obtain ⟨rfl, -⟩ := Prod.mk.inj (Except.ok.inj reads)
        exact .object distinct' inside'
      next => exact within.members distinct' inside' reads
      next => cases reads
    next => cases reads
  next => cases reads

theorem readItems (within : ReadsUnambiguous bound) {items : List Value}
    (inside : ∀ item ∈ items, item.Unambiguous)
    (reads : readItems (bound + 1) depth cursor items = .ok (value, after)) :
    value.Unambiguous := by
  unfold Json.readItems at reads
  obtain ⟨⟨item, behind⟩, readsItem, reads⟩ := bind_eq_ok_iff.mp reads
  have inside' : ∀ other ∈ item :: items, other.Unambiguous := by
    intro other among
    rcases List.mem_cons.mp among with rfl | old
    · exact within.value readsItem
    · exact inside other old
  dsimp only at reads
  split at reads
  next =>
    obtain ⟨rfl, -⟩ := Prod.mk.inj (Except.ok.inj reads)
    exact .array fun other among => inside' other (List.mem_reverse.mp among)
  next => exact within.items inside' reads
  next => cases reads

end ReadsUnambiguous

theorem readsUnambiguous (bound : Nat) : ReadsUnambiguous bound := by
  induction bound with
  | zero =>
      constructor
      case value => simp [readValue, complain]
      case members => simp [readMembers, complain]
      case items => simp [readItems, complain]
  | succ bound ih => exact ⟨ih.readValue, ih.readMembers, ih.readItems⟩

/-- In a document that has been read no object names a member twice. -/
theorem unambiguous_of_read {text : Points} {value : Value} (reads : read text = .ok value) :
    value.Unambiguous := by
  unfold read at reads
  split at reads
  · cases reads
  · obtain ⟨⟨whole, after⟩, readsWhole, ends⟩ := bind_eq_ok_iff.mp reads
    dsimp only at ends
    split at ends
    · obtain rfl := Except.ok.inj ends
      exact (readsUnambiguous _).value readsWhole
    · cases ends

end Json
end Chip8
