import AppSupervisor.Proofs.Registry
import Mathlib.Data.List.Nodup

/-!
The registry against its history.

What a registry answers follows from what was done to it before: it is an ordered map of the
deployments that are visible and a set of the ids that are claimed. A history lists what was done,
the latest first, so that the last thing shown under an id and the place it got are found by going
back. No order of accesses is assumed: deployments may be published without a claim, or published
twice, and what is not there may be released or removed.
-/

namespace AppSupervisor.Registry

variable {α : Type}

inductive Access (α : Type)
  | reserve (id : String)
  | publish (id : String) (value : α)
  | release (id : String)
  | get (id : String)
  | remove (id : String)
  | ids
  | iterate
  | contains (id : String)
  | size

inductive Reply (α : Type)
  | done
  | refused (fault : Fault)
  | found (value? : Option α)
  | listed (ids : List String)
  | answered (yes : Bool)
  | counted (count : Nat)

def perform (r : Registry α) : Access α → Reply α × Registry α
  | .reserve id => match r.reserve id with
    | .ok claimed => (.done, claimed)
    | .error fault => (.refused fault, r)
  | .publish id value => (.done, r.publish id value)
  | .release id => (.done, r.release id)
  | .get id => (.found (r.get? id), r)
  | .remove id => (.found (r.get? id), r.remove id)
  | .ids | .iterate => (.listed r.ids, r)
  | .contains id => (.answered (r.contains id), r)
  | .size => (.counted r.size, r)

def Access.subject? : Access α → Option String
  | .reserve id | .publish id _ | .release id | .remove id => some id
  | .get _ | .ids | .iterate | .contains _ | .size => none

def after : List (Access α) → Registry α
  | [] => {}
  | access :: past => ((after past).perform access).2

/-! ### What a history tells -/

def Access.Moves (id : String) : Access α → Prop
  | .publish other _ | .remove other => id = other
  | _ => False

def Access.Settles (id : String) : Access α → Prop
  | .publish other _ | .release other => id = other
  | _ => False

/-- What was last published under an id and not removed since. -/
def lastShown (id : String) : List (Access α) → Option α
  | [] => none
  | .publish other value :: past => if id = other then some value else lastShown id past
  | .remove other :: past => if id = other then none else lastShown id past
  | _ :: past => lastShown id past

/-- The number of accesses in front of the one that made an id visible. -/
def shownSince (id : String) : List (Access α) → Nat
  | [] => 0
  | .publish other _ :: past =>
      if id = other ∧ (lastShown id past).isNone then past.length else shownSince id past
  | _ :: past => shownSince id past

/-- Whether a claim was granted on an id and neither fulfilled nor dropped since. -/
def isClaimed (id : String) : List (Access α) → Bool
  | [] => false
  | .reserve other :: past => (id == other && (lastShown id past).isNone) || isClaimed id past
  | .publish other _ :: past | .release other :: past => id != other && isClaimed id past
  | _ :: past => isClaimed id past

/-- The visible ids of a history, each once, in the order in which they became visible. -/
structure Listing (past : List (Access α)) (ids : List String) : Prop where
  nodup : ids.Nodup
  mem_iff : ∀ id, id ∈ ids ↔ (lastShown id past).isSome
  ordered : ids.Pairwise fun earlier later => shownSince earlier past < shownSince later past

/-- What an ordered map with a set of claims replies behind a history. -/
def Fits (past : List (Access α)) : Access α → Reply α → Prop
  | .reserve id, reply =>
      reply = if (lastShown id past).isSome || isClaimed id past then .refused (.alreadyDeployed id)
        else .done
  | .publish _ _, reply | .release _, reply => reply = .done
  | .get id, reply | .remove id, reply => reply = .found (lastShown id past)
  | .ids, reply | .iterate, reply => ∃ ids, Listing past ids ∧ reply = .listed ids
  | .contains id, reply => reply = .answered (lastShown id past).isSome
  | .size, reply => ∃ ids, Listing past ids ∧ reply = .counted ids.length

structure Shows (past : List (Access α)) (r : Registry α) : Prop where
  shown : ∀ id, r.get? id = lastShown id past
  claimed : ∀ id, id ∈ r.reserved ↔ isClaimed id past
  listed : Listing past r.ids
  disjoint : ∀ id ∈ r.reserved, id ∉ r.ids

section History

variable {past : List (Access α)} {id : String}

/-- What some accesses begin and others end goes on behind a history if it began and did not end
since. -/
theorem goes_on_iff {P : List (Access α) → Prop} (Begins : Access α → List (Access α) → Prop)
    (Ends : Access α → Prop) (hnil : ¬P [])
    (hcons : ∀ access past, P (access :: past) ↔ Begins access past ∨ (P past ∧ ¬Ends access))
    (past : List (Access α)) : P past ↔ ∃ later access earlier,
      past = later ++ access :: earlier ∧ Begins access earlier ∧ ∀ other ∈ later, ¬Ends other := by
  constructor
  · intro h
    induction past with
    | nil => exact absurd h hnil
    | cons access past ih =>
        rcases (hcons access past).mp h with hbegins | ⟨hpast, hkept⟩
        · exact ⟨[], access, past, rfl, hbegins, by simp⟩
        · obtain ⟨later, first, earlier, rfl, hbegins, hlater⟩ := ih hpast
          refine ⟨access :: later, first, earlier, rfl, hbegins, ?_⟩
          exact List.forall_mem_cons.mpr ⟨hkept, hlater⟩
  · rintro ⟨later, first, earlier, rfl, hbegins, hlater⟩
    induction later with
    | nil => exact (hcons first earlier).mpr (Or.inl hbegins)
    | cons access later ih =>
        obtain ⟨hkept, hrest⟩ := List.forall_mem_cons.mp hlater
        exact (hcons access _).mpr (Or.inr ⟨ih hrest, hkept⟩)

/-- What is shown under an id is the value of its latest publication, if no removal came since. -/
theorem lastShown_eq_some_iff {value : α} :
    lastShown id past = some value ↔ ∃ later access earlier,
      past = later ++ access :: earlier ∧ access = .publish id value ∧
        ∀ other ∈ later, ¬other.Moves id := by
  refine goes_on_iff (P := fun past => lastShown id past = some value)
    (fun access _ => access = .publish id value) (Access.Moves id) ?_ (fun access past => ?_) past
  · simp [lastShown]
  cases access with
  | publish other new =>
      by_cases hsame : id = other
      · simp [lastShown, Access.Moves, hsame]
      · simp [lastShown, Access.Moves, hsame, Ne.symm hsame]
  | remove other => by_cases hsame : id = other <;> simp [lastShown, Access.Moves, hsame]
  | reserve | release | get | ids | iterate | contains | size => simp [lastShown, Access.Moves]

/-- A claim was granted while its id was hidden, and it was neither fulfilled nor dropped since. -/
theorem isClaimed_iff :
    isClaimed id past ↔ ∃ later access earlier, past = later ++ access :: earlier ∧
      (access = .reserve id ∧ lastShown id earlier = none) ∧
        ∀ other ∈ later, ¬other.Settles id := by
  refine goes_on_iff (P := fun past => isClaimed id past)
    (fun access past => access = .reserve id ∧ lastShown id past = none) (Access.Settles id) ?_
    (fun access past => ?_) past
  · simp [isClaimed]
  cases access with
  | reserve other =>
      by_cases hsame : id = other
      · simp [isClaimed, Access.Settles, hsame]
      · simp [isClaimed, Access.Settles, hsame, Ne.symm hsame]
  | publish other value => simp [isClaimed, Access.Settles, and_comm]
  | release other => simp [isClaimed, Access.Settles, and_comm]
  | get | remove | ids | iterate | contains | size => simp [isClaimed, Access.Settles]

theorem shownSince_of_visible {other : String} {value : α} (h : (lastShown id past).isSome) :
    shownSince id (.publish other value :: past) = shownSince id past := by
  have hnone : (lastShown id past).isNone = false := by simpa using h
  simp [shownSince, hnone]

theorem shownSince_of_hidden {value : α} (h : ¬(lastShown id past).isSome) :
    shownSince id (.publish id value :: past) = past.length := by
  have hnone : (lastShown id past).isNone = true := by simpa using h
  simp [shownSince, hnone]

/-- A visible id was made visible by the publication behind which it stayed visible. -/
theorem shownSince_eq_iff {n : Nat} :
    ((lastShown id past).isSome ∧ shownSince id past = n) ↔ ∃ later access earlier,
      past = later ++ access :: earlier ∧
      ((∃ value, access = .publish id value) ∧ lastShown id earlier = none ∧ earlier.length = n) ∧
        ∀ other ∈ later, other ≠ .remove id := by
  refine goes_on_iff (P := fun past => (lastShown id past).isSome ∧ shownSince id past = n)
    (fun access past => (∃ value, access = .publish id value) ∧ lastShown id past = none ∧
      past.length = n) (· = .remove id) ?_ (fun access past => ?_) past
  · simp [lastShown]
  cases access with
  | publish other value =>
      by_cases hvisible : (lastShown id past).isSome
      · have hshown : (lastShown id (.publish other value :: past)).isSome := by
          by_cases hsame : id = other <;> simp [lastShown, hsame, hvisible]
        have hnone : lastShown id past ≠ none := Option.isSome_iff_ne_none.mp hvisible
        simp [shownSince_of_visible hvisible, hshown, hvisible, hnone]
      · have hnone : lastShown id past = none := by simpa using hvisible
        by_cases hsame : id = other
        · subst hsame
          simp [shownSince_of_hidden hvisible, lastShown, hnone]
        · simp [lastShown, hsame, Ne.symm hsame, hnone]
  | remove other =>
      by_cases hsame : id = other
      · simp [lastShown, hsame]
      · simp [lastShown, shownSince, hsame, Ne.symm hsame]
  | reserve | release | get | ids | iterate | contains | size => simp [lastShown, shownSince]

theorem shownSince_lt_length (h : (lastShown id past).isSome) :
    shownSince id past < past.length := by
  obtain ⟨later, access, earlier, rfl, ⟨-, -, hlength⟩, -⟩ := shownSince_eq_iff.mp ⟨h, rfl⟩
  rw [← hlength, List.length_append, List.length_cons]
  omega

theorem Listing.unique {ids others : List String} (h : Listing past ids)
    (h' : Listing past others) : ids = others := by
  have hperm : ids.Perm others := by
    rw [List.perm_ext_iff_of_nodup h.nodup h'.nodup]
    exact fun id => (h.mem_iff id).trans (h'.mem_iff id).symm
  refine hperm.eq_of_pairwise (fun a b _ _ hab hba => ?_) h.ordered h'.ordered
  exact absurd (Nat.lt_trans hab hba) (Nat.lt_irrefl _)

theorem Listing.keep {ids : List String} {access : Access α} (h : Listing past ids)
    (hshown : ∀ id, lastShown id (access :: past) = lastShown id past)
    (hsince : ∀ id, shownSince id (access :: past) = shownSince id past) :
    Listing (access :: past) ids where
  nodup := h.nodup
  mem_iff id := by rw [hshown, h.mem_iff]
  ordered := by simpa only [hsince] using h.ordered

theorem Listing.remove {ids : List String} (h : Listing past ids) (id : String) :
    Listing (.remove id :: past) (ids.filter (· != id)) where
  nodup := h.nodup.filter _
  mem_iff other := by
    by_cases hother : other = id
    · simp [hother, lastShown]
    · simp [hother, lastShown, h.mem_iff]
  ordered := h.ordered.filter _

/-- An id that is published goes to the end, or keeps its place if it was visible. -/
theorem Listing.publish {ids : List String} (h : Listing past ids) (id : String) (value : α) :
    Listing (.publish id value :: past) (if id ∈ ids then ids else ids ++ [id]) := by
  have hmem : ∀ other, (lastShown other (.publish id value :: past)).isSome ↔
      other = id ∨ other ∈ ids := by
    intro other
    by_cases hother : other = id
    · simp [hother, lastShown]
    · simp [hother, lastShown, h.mem_iff]
  have hsince : ∀ other ∈ ids, shownSince other (.publish id value :: past) =
      shownSince other past := by
    intro other hother
    exact shownSince_of_visible ((h.mem_iff other).mp hother)
  have hordered : ids.Pairwise fun earlier later =>
      shownSince earlier (.publish id value :: past) <
        shownSince later (.publish id value :: past) := by
    refine h.ordered.imp_of_mem fun hearlier hlater hless => ?_
    rw [hsince _ hearlier, hsince _ hlater]
    exact hless
  split
  · rename_i hvisible
    refine ⟨h.nodup, fun other => ?_, hordered⟩
    rw [hmem]
    constructor
    · exact Or.inr
    · rintro (rfl | hother)
      · exact hvisible
      · exact hother
  · rename_i hnew
    refine ⟨?_, fun other => ?_, ?_⟩
    · exact List.Nodup.append h.nodup (List.nodup_singleton id) (by simpa using hnew)
    · rw [hmem, List.mem_append, List.mem_singleton, or_comm]
    · refine List.pairwise_append.mpr ⟨hordered, List.pairwise_singleton _ _, ?_⟩
      -- what becomes visible now comes after all that is visible already
      intro other hother last hlast
      obtain rfl : last = id := List.mem_singleton.mp hlast
      have hhidden : ¬(lastShown last past).isSome := fun hvisible =>
        hnew ((h.mem_iff last).mpr hvisible)
      rw [hsince other hother, shownSince_of_hidden hhidden]
      exact shownSince_lt_length ((h.mem_iff other).mp hother)

/-! ### One access -/

theorem Shows.reserve {r : Registry α} (h : Shows past r) (id : String) :
    Fits past (.reserve id) (r.perform (.reserve id)).1 ∧
      Shows (.reserve id :: past) (r.perform (.reserve id)).2 := by
  have hlisted : Listing (.reserve id :: past) r.ids := h.listed.keep (fun _ => rfl) fun _ => rfl
  by_cases hfree : id ∉ r.ids ∧ id ∉ r.reserved
  · obtain ⟨hhidden, hunclaimed⟩ := hfree
    have hnone : lastShown id past = none := by rw [← h.shown, get?_eq_none_iff.mpr hhidden]
    have hclaimed : isClaimed id past = false := by
      simpa using mt (h.claimed id).mpr hunclaimed
    have hgranted := reserve_eq_ok_iff.mpr ⟨hhidden, hunclaimed, rfl⟩
    simp only [perform, hgranted]
    refine ⟨by simp [Fits, hnone, hclaimed], h.shown, fun other => ?_, hlisted, ?_⟩
    · rw [List.mem_cons, h.claimed]
      by_cases hother : other = id
      · simp [isClaimed, hother, hnone]
      · simp [isClaimed, hother]
    · intro other hother
      rcases List.mem_cons.mp hother with rfl | hother
      · exact hhidden
      · exact h.disjoint other hother
  · have htaken : id ∈ r.ids ∨ id ∈ r.reserved := by
      by_contra hnone
      exact hfree (not_or.mp hnone)
    have hrefused := reserve_eq_error_iff.mpr ⟨htaken, rfl⟩
    simp only [perform, hrefused]
    have hknown : (lastShown id past).isSome || isClaimed id past := by
      rw [Bool.or_eq_true, ← h.listed.mem_iff, ← h.claimed]
      exact htaken
    refine ⟨by simp [Fits, hknown], h.shown, fun other => ?_, hlisted, h.disjoint⟩
    rw [h.claimed]
    by_cases hother : other = id
    · subst hother
      cases hshown : lastShown other past <;> simp_all [isClaimed]
    · simp [isClaimed, hother]

theorem Shows.publish {r : Registry α} (h : Shows past r) (id : String) (value : α) :
    Shows (.publish id value :: past) (r.publish id value) where
  shown other := by rw [get?_publish, h.shown, lastShown]
  claimed other := by
    rw [mem_reserved_publish, h.claimed]
    simp [isClaimed]
  listed := by
    rw [ids_publish]
    exact h.listed.publish id value
  disjoint other hother := by
    obtain ⟨hne, hreserved⟩ := mem_reserved_publish.mp hother
    have hhidden := h.disjoint other hreserved
    rw [ids_publish]
    split
    · exact hhidden
    · simp [hhidden, hne]

theorem Shows.release {r : Registry α} (h : Shows past r) (id : String) :
    Shows (.release id :: past) (r.release id) where
  shown := h.shown
  claimed other := by
    rw [mem_reserved_release, h.claimed]
    simp [isClaimed]
  listed := h.listed.keep (fun _ => rfl) fun _ => rfl
  disjoint other hother := h.disjoint other (mem_reserved_release.mp hother).2

theorem Shows.remove {r : Registry α} (h : Shows past r) (id : String) :
    Shows (.remove id :: past) (r.remove id) where
  shown other := by rw [get?_remove, h.shown, lastShown]
  claimed := h.claimed
  listed := by
    rw [ids_remove]
    exact h.listed.remove id
  disjoint other hother := by
    rw [ids_remove]
    exact fun hmem => h.disjoint other hother (List.mem_of_mem_filter hmem)

theorem Shows.look {r : Registry α} (h : Shows past r) {access : Access α}
    (haccess : access.subject? = none) : Shows (access :: past) r := by
  cases access with
  | get | ids | iterate | contains | size =>
      exact ⟨h.shown, h.claimed, h.listed.keep (fun _ => rfl) fun _ => rfl, h.disjoint⟩
  | reserve | publish | release | remove => cases haccess

/-- Every access replies as the history says, and the registry holds the longer history. -/
theorem Shows.perform {r : Registry α} (h : Shows past r) (access : Access α) :
    Fits past access (r.perform access).1 ∧ Shows (access :: past) (r.perform access).2 := by
  have hcontains : ∀ id, r.contains id = (lastShown id past).isSome := by
    intro id
    rw [contains, h.shown]
  have hsize : r.size = r.ids.length := (List.length_map _).symm
  cases access with
  | reserve id => exact h.reserve id
  | publish id value => exact ⟨rfl, h.publish id value⟩
  | release id => exact ⟨rfl, h.release id⟩
  | get id => exact ⟨congrArg Reply.found (h.shown id), h.look rfl⟩
  | remove id => exact ⟨congrArg Reply.found (h.shown id), h.remove id⟩
  | ids => exact ⟨⟨r.ids, h.listed, rfl⟩, h.look rfl⟩
  | iterate => exact ⟨⟨r.ids, h.listed, rfl⟩, h.look rfl⟩
  | contains id => exact ⟨congrArg Reply.answered (hcontains id), h.look rfl⟩
  | size => exact ⟨⟨r.ids, h.listed, congrArg Reply.counted hsize⟩, h.look rfl⟩

end History

/-! ### Other ids -/

def besides (r : Registry α) (id : String) : Registry α where
  published := r.published.filter (·.1 != id)
  reserved := r.reserved.filter (· != id)

theorem besides_publish (r : Registry α) (id : String) (value : α) :
    (r.publish id value).besides id = r.besides id := by
  have hreserved : (r.publish id value).reserved = r.reserved.filter (· != id) := rfl
  have hpublished : (r.publish id value).published.filter (·.1 != id) =
      r.published.filter (·.1 != id) := by
    by_cases hmem : id ∈ r.ids
    · rw [publish_of_mem value hmem]
      induction r.published with
      | nil => rfl
      | cons entry rest ih =>
          by_cases hkey : entry.1 = id
          · simpa [hkey] using ih
          · simpa [hkey] using ih
    · rw [publish_of_not_mem value hmem]
      simp
  simp [besides, hreserved, hpublished]

/-- An access changes nothing that is kept under other ids, their order included, and one that only
looks or is refused changes nothing at all. -/
theorem perform_besides (r : Registry α) (access : Access α) :
    (∀ id, access.subject? = some id → (r.perform access).2.besides id = r.besides id) ∧
    (access.subject? = none → (r.perform access).2 = r) ∧
    (∀ fault, (r.perform access).1 = .refused fault → (r.perform access).2 = r) := by
  cases access with
  | reserve id =>
      cases hresult : r.reserve id with
      | error fault => simp [perform, hresult]
      | ok claimed =>
          obtain ⟨-, -, rfl⟩ := reserve_eq_ok_iff.mp hresult
          simp [perform, hresult, Access.subject?, besides]
  | publish id value => simp [perform, Access.subject?, besides_publish]
  | release id => simp [perform, Access.subject?, besides, release]
  | remove id => simp [perform, Access.subject?, besides, remove]
  | get | ids | iterate | contains | size => simp [perform, Access.subject?]

/-! ### Any number of accesses -/

theorem shows_nil : Shows [] ({} : Registry α) where
  shown _ := rfl
  claimed _ := by simp [isClaimed]
  listed := ⟨List.nodup_nil, fun _ => by simp [ids, lastShown], List.Pairwise.nil⟩
  disjoint _ hmem := absurd hmem List.not_mem_nil

theorem shows_after (past : List (Access α)) : Shows past (after past) := by
  induction past with
  | nil => exact shows_nil
  | cons access past ih => exact (ih.perform access).2

/-- Behind any history, an access is answered as an ordered map with a set of claims answers it, and
what it leaves is again what the history tells. A claimed id is invisible, a refusal changes
nothing, and no access changes what is kept under other ids than its own. -/
theorem after_refines (past : List (Access α)) (access : Access α) :
    Fits past access ((after past).perform access).1 ∧
    Shows (access :: past) (after (access :: past)) ∧
    (∀ id ∈ (after past).reserved, (after past).get? id = none ∧
      (after past).contains id = false ∧ id ∉ (after past).ids) ∧
    (∀ fault, ((after past).perform access).1 = .refused fault →
      after (access :: past) = after past) ∧
    (∀ id, access.subject? = some id →
      (after (access :: past)).besides id = (after past).besides id) ∧
    (access.subject? = none → after (access :: past) = after past) := by
  have hshows := shows_after past
  obtain ⟨hfits, hnext⟩ := hshows.perform access
  obtain ⟨hbesides, hlook, hrefused⟩ := perform_besides (after past) access
  refine ⟨hfits, hnext, ?_, hrefused, hbesides, hlook⟩
  intro id hreserved
  have hhidden := hshows.disjoint id hreserved
  exact ⟨get?_eq_none_iff.mpr hhidden, contains_eq_false_iff.mpr hhidden, hhidden⟩

/-- An id that is removed and shown again goes to the end; one that is only shown again stays. -/
example :
    (after [.publish "a" 4, .publish "b" 3, .remove "b", .publish "c" 2, .publish "b" 1,
      .publish "a" 0]).published = [("a", 4), ("c", 2), ("b", 3)] := by
  decide

end AppSupervisor.Registry
