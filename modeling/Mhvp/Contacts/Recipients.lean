import Mhvp.Contacts.Models
import Mhvp.Lib.Deduplicate
import Mathlib.Data.List.Nodup

namespace Mhvp.Contacts

open Accounting Lib.Calendar Lib.Deduplicate List

inductive DeliveryMode
  | both
  | representativeOnly
  | ownerOnly
  deriving DecidableEq

structure ContactRelation where
  contactId : ContactId
  relatedContactId : ContactId
  /-- The kind is `representative`. -/
  representative : Bool := true
  validFrom : Option Date := none
  validTo : Option Date := none
  deliveryMode : DeliveryMode := .both

/-- The contacts, and the relations in the order of their creation. -/
structure Directory where
  contacts : List Contact
  relations : List ContactRelation

structure Recipient where
  contactId : ContactId
  /-- The contact a representative receives for. -/
  represents : Option ContactId := none
  deriving DecidableEq

def ContactRelation.Active (row : ContactRelation) (day : Date) : Prop :=
  (∀ first ∈ row.validFrom, first ≤ day) ∧ ∀ last ∈ row.validTo, day ≤ last

instance : Decidable (ContactRelation.Active row day) := by unfold ContactRelation.Active; infer_instance

/-- `active_representatives`, of one contact. -/
def activeRepresentatives (directory : Directory) (day : Date) (contactId : ContactId) : List ContactRelation :=
  directory.relations.filter fun row => row.contactId = contactId ∧ row.representative ∧
    (directory.contacts[row.relatedContactId]?.map Contact.deleted) = some false ∧ row.Active day

/-- The contact receives for itself. -/
def ReceivesItself (directory : Directory) (day : Date) (contactId : ContactId) : Prop :=
  activeRepresentatives directory day contactId = [] ∨
    ∃ row ∈ activeRepresentatives directory day contactId, row.deliveryMode ≠ .representativeOnly

instance : Decidable (ReceivesItself directory day contactId) := by unfold ReceivesItself; infer_instance

/-- The recipients one contact stands for. -/
def targets (directory : Directory) (day : Date) (contactId : ContactId) : List Recipient :=
  (if ReceivesItself directory day contactId then [⟨contactId, none⟩] else []) ++
    ((activeRepresentatives directory day contactId).filter fun row => row.deliveryMode ≠ .ownerOnly).map fun row =>
      ⟨row.relatedContactId, some contactId⟩

/-- `seen`: a contact is added once. -/
def SameContact (known row : Recipient) : Prop := known.contactId = row.contactId

instance : DecidableRel SameContact := fun _ _ => inferInstanceAs (Decidable (_ = _))

def resolveRecipients (directory : Directory) (day : Date) (contactIds : List ContactId) : List Recipient :=
  absorb SameContact [] (contactIds.flatMap (targets directory day))

def representativeOnly (recipients : List Recipient) (contactId : ContactId) : Bool :=
  !recipients.any fun row => row.contactId = contactId ∧ row.represents = none

variable {directory : Directory} {day : Date} {contactId other : ContactId} {contactIds before : List ContactId}
  {stored batch : List Recipient}

theorem known_iff {row : Recipient} :
    Known SameContact stored row ↔ row.contactId ∈ stored.map Recipient.contactId := by
  simp [Known, SameContact]

theorem of_mem_absorb {row : Recipient} (member : row ∈ absorb SameContact stored batch) :
    row ∈ stored ∨ row ∈ batch := by
  induction batch generalizing stored with
  | nil => exact Or.inl member
  | cons first rest hypothesis =>
    unfold absorb at member
    split at member
    · exact (hypothesis member).imp_right (mem_cons_of_mem _)
    · rcases hypothesis member with old | later
      · exact (mem_append.mp old).imp_right fun same => by
          rw [mem_singleton.mp same]
          exact mem_cons_self
      · exact Or.inr (mem_cons_of_mem _ later)

theorem known_absorb (named : contactId ∈ batch.map Recipient.contactId) :
    contactId ∈ (absorb SameContact stored batch).map Recipient.contactId := by
  induction batch generalizing stored with
  | nil => cases named
  | cons first rest hypothesis =>
    unfold absorb
    rcases mem_cons.mp named with rfl | later
    · split
      · rename_i known
        exact map_subset _ (prefix_absorb stored rest).subset (known_iff.mp known)
      · apply map_subset _ (prefix_absorb (stored ++ [first]) rest).subset
        simp
    · split
      · exact hypothesis later
      · exact hypothesis later

theorem nodup_absorb (unique : (stored.map Recipient.contactId).Nodup) :
    ((absorb SameContact stored batch).map Recipient.contactId).Nodup := by
  induction batch generalizing stored with
  | nil => exact unique
  | cons row rest hypothesis =>
    unfold absorb
    split
    · exact hypothesis unique
    · rename_i unknown
      apply hypothesis
      rw [map_append, map_singleton]
      refine nodup_append.mpr ⟨unique, by simp, fun known member new isNew same => unknown (known_iff.mpr ?_)⟩
      rw [← mem_singleton.mp isNew, ← same]
      exact member

def Receives (directory : Directory) (day : Date) (contactIds : List ContactId) (contactId : ContactId) : Prop :=
  contactId ∈ (resolveRecipients directory day contactIds).map Recipient.contactId

theorem receives_iff : Receives directory day contactIds contactId ↔
    ∃ listed ∈ contactIds, contactId ∈ (targets directory day listed).map Recipient.contactId := by
  constructor
  · intro received
    obtain ⟨row, member, rfl⟩ := mem_map.mp received
    obtain ⟨listed, isListed, isTarget⟩ := mem_flatMap.mp ((of_mem_absorb member).resolve_left not_mem_nil)
    exact ⟨listed, isListed, mem_map_of_mem isTarget⟩
  · rintro ⟨listed, isListed, named⟩
    obtain ⟨row, isTarget, rfl⟩ := mem_map.mp named
    exact known_absorb (mem_map_of_mem (mem_flatMap.mpr ⟨listed, isListed, isTarget⟩))

/-- The contact is named as an informed representative. -/
def Informs (directory : Directory) (day : Date) (contactId other : ContactId) : Prop :=
  ∃ row ∈ activeRepresentatives directory day contactId, row.deliveryMode ≠ .ownerOnly ∧ row.relatedContactId = other

theorem mem_targets : other ∈ (targets directory day contactId).map Recipient.contactId ↔
    ReceivesItself directory day contactId ∧ other = contactId ∨ Informs directory day contactId other := by
  unfold targets Informs
  split <;> simp [*, and_assoc]

/-- What is expected of the recipients of a list of contacts. -/
structure Resolved (directory : Directory) (day : Date) (contactIds : List ContactId) : Prop where
  reached : ∀ contactId ∈ contactIds, Receives directory day contactIds contactId ∨
    ∃ other, Informs directory day contactId other ∧ Receives directory day contactIds other
  once : ((resolveRecipients directory day contactIds).map Recipient.contactId).Nodup
  anyOrder : ∀ others, others.Perm contactIds → ∀ contactId,
    Receives directory day others contactId ↔ Receives directory day contactIds contactId
  only : ∀ contactId ∈ contactIds,
    representativeOnly (resolveRecipients directory day contactIds) contactId = true ↔
      activeRepresentatives directory day contactId ≠ [] ∧
        ∀ row ∈ activeRepresentatives directory day contactId, row.deliveryMode = .representativeOnly

/-- No contact that receives for itself is named as a representative by a contact listed before it. -/
def NotNamedBefore (directory : Directory) (day : Date) (contactIds : List ContactId) : Prop :=
  ∀ before contactId after, contactIds = before ++ contactId :: after → contactId ∉ before →
    ReceivesItself directory day contactId → ∀ earlier ∈ before, ¬ Informs directory day earlier contactId

theorem once (directory : Directory) (day : Date) (contactIds : List ContactId) :
    ((resolveRecipients directory day contactIds).map Recipient.contactId).Nodup :=
  nodup_absorb nodup_nil

theorem representativeOnly_eq_true {recipients : List Recipient} :
    representativeOnly recipients contactId = true ↔ ⟨contactId, none⟩ ∉ recipients := by
  unfold representativeOnly
  rw [Bool.not_eq_true', any_eq_false]
  constructor
  · intro others member
    simpa using others _ member
  · rintro missing ⟨_, _⟩ member
    simp only [decide_eq_true_eq]
    rintro ⟨rfl, rfl⟩
    exact missing member

theorem itself_of_targets (member : ⟨contactId, none⟩ ∈ targets directory day other) :
    contactId = other ∧ ReceivesItself directory day contactId := by
  unfold targets at member
  split at member <;> simp_all

theorem only_itself (member : ⟨contactId, none⟩ ∈ resolveRecipients directory day contactIds) :
    contactId ∈ contactIds ∧ ReceivesItself directory day contactId := by
  obtain ⟨listed, isListed, isTarget⟩ := mem_flatMap.mp ((of_mem_absorb member).resolve_left not_mem_nil)
  obtain ⟨rfl, itself⟩ := itself_of_targets isTarget
  exact ⟨isListed, itself⟩

/-- A contact that receives for itself is listed as such unless an earlier one names it. -/
theorem mem_resolve (after : List ContactId) (new : contactId ∉ before)
    (itself : ReceivesItself directory day contactId) :
    ⟨contactId, none⟩ ∈ resolveRecipients directory day (before ++ contactId :: after) ↔
      ∀ earlier ∈ before, ¬ Informs directory day earlier contactId := by
  have isFirst : resolveRecipients directory day (before ++ contactId :: after) =
      absorb SameContact (resolveRecipients directory day before) (⟨contactId, none⟩ ::
        ((targets directory day contactId).tail ++ after.flatMap (targets directory day))) := by
    simp [resolveRecipients, absorb_append, flatMap_append, targets, itself]
  constructor
  · intro member earlier isEarlier informs
    have named : Receives directory day before contactId :=
      receives_iff.mpr ⟨earlier, isEarlier, mem_targets.mpr (Or.inr informs)⟩
    obtain ⟨row, isRow, isContact⟩ := mem_map.mp named
    have kept : row ∈ resolveRecipients directory day (before ++ contactId :: after) := by
      rw [isFirst]
      exact (prefix_absorb _ _).subset isRow
    have same := inj_on_of_nodup_map (once directory day _) kept member isContact
    exact new (only_itself (same ▸ isRow)).1
  · intro unnamed
    have unknown : ¬ Known SameContact (resolveRecipients directory day before) ⟨contactId, none⟩ := by
      intro known
      obtain ⟨earlier, isEarlier, named⟩ := receives_iff.mp (known_iff.mp known)
      rcases mem_targets.mp named with ⟨-, rfl⟩ | informs
      · exact new isEarlier
      · exact unnamed earlier isEarlier informs
    rw [isFirst, absorb, if_neg unknown]
    apply (prefix_absorb _ _).subset
    simp

/-- Every contact is reached and nobody named twice, in any order, and a contact is left to its representatives exactly
by their rules, exactly where no contact that receives for itself is named before it is listed. -/
theorem recipients_resolved (directory : Directory) (day : Date) (contactIds : List ContactId) :
    Resolved directory day contactIds ↔ NotNamedBefore directory day contactIds := by
  have only : ∀ contactId, (activeRepresentatives directory day contactId ≠ [] ∧
      ∀ row ∈ activeRepresentatives directory day contactId, row.deliveryMode = .representativeOnly) ↔
        ¬ ReceivesItself directory day contactId := by
    simp [ReceivesItself]
  constructor
  · rintro resolved before contactId after rfl new itself
    apply (mem_resolve after new itself).mp
    by_contra missing
    have left := (resolved.only contactId (by simp)).mp (representativeOnly_eq_true.mpr missing)
    exact (only contactId).mp left itself
  · intro notNamed
    refine ⟨fun contactId listed => ?_, once directory day contactIds, fun others perm contactId => ?_,
      fun contactId listed => ?_⟩
    · by_cases itself : ReceivesItself directory day contactId
      · exact Or.inl (receives_iff.mpr ⟨contactId, listed, mem_targets.mpr (Or.inl ⟨itself, rfl⟩)⟩)
      · obtain ⟨some, rules⟩ := (only contactId).mpr itself
        obtain ⟨row, member⟩ := exists_mem_of_ne_nil _ some
        have informs : Informs directory day contactId row.relatedContactId :=
          ⟨row, member, by simp [rules row member], rfl⟩
        exact Or.inr ⟨_, informs, receives_iff.mpr ⟨contactId, listed, mem_targets.mpr (Or.inr informs)⟩⟩
    · simp only [receives_iff, perm.mem_iff]
    · rw [representativeOnly_eq_true, only, not_iff_not]
      constructor
      · exact fun member => (only_itself member).2
      · intro itself
        obtain ⟨before, after, rfl, new⟩ := eq_append_cons_of_mem listed
        exact (mem_resolve after new itself).mpr (notNamed before contactId after rfl new itself)

/-- The first contact is represented by the second, which receives for itself too. -/
def sampleDirectory : Directory where
  contacts := [{ displayName := "Anna" }, { displayName := "Ben" }]
  relations := [{ contactId := 0, relatedContactId := 1 }]

/-- The second contact has no representative and counts as left to one, since the first is listed before it. -/
theorem representative_left_out :
    ¬ ∀ (directory : Directory) (day : Date) (contactIds : List ContactId), Resolved directory day contactIds := by
  intro claimed
  have left := ((claimed sampleDirectory (.ofYmd 2026 9 26) [0, 1]).only 1 (by decide)).mp (by decide)
  exact absurd left.1 (by decide)

end Mhvp.Contacts
