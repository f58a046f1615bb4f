import AppSupervisor.Files.Tree

/-!
What a new file leaves alone in a file tree.

Walks are told by a relation with one rule for each way to go on. A new file gets a number that
stood for nothing and a name that was free, so an induction on these rules shows that every walk
that led somewhere still leads there, and another one that no walk led to the new file before.
-/

namespace AppSupervisor.Files

def Tree.entry (t : Tree) (id : Nat) : Entry := t.entries.getD id .device

def Entry.IsLeaf : Entry → Prop
  | .directory _ | .link _ => False
  | .file _ | .device => True

structure LooksUp (t : Tree) (way : List Nat) (part : String) (id : Nat) : Prop where
  notDot : part ≠ "."
  notDots : part ≠ ".."
  short : part.utf8ByteSize ≤ Tree.nameLimit
  named : (t.names (way.headD 0)).lookup part = some id

/-- What a walk that may follow a number of links leads to. A link at the end is followed only if
asked for. -/
inductive Walk (t : Tree) (followLast : Bool) : Nat → List Nat → List String → Tree.Place → Prop
  | arrived {links : Nat} {way : List Nat} :
      Walk t followLast links way [] ⟨way.drop 1, way.headD 0⟩
  | stay {links : Nat} {way : List Nat} {part : String} {rest : List String} {place : Tree.Place}
      (hpart : part = ".") (hrest : Walk t followLast links way rest place) :
      Walk t followLast links way (part :: rest) place
  | up {links : Nat} {way : List Nat} {part : String} {rest : List String} {place : Tree.Place}
      (hpart : part = "..")
      (hrest : Walk t followLast links (if way.length ≤ 1 then way else way.drop 1) rest place) :
      Walk t followLast links way (part :: rest) place
  | down {links id : Nat} {way : List Nat} {part : String} {rest : List String}
      {place : Tree.Place} (hpart : LooksUp t way part id) {names : List (String × Nat)}
      (hentry : t.entry id = .directory names)
      (hrest : Walk t followLast links (id :: way) rest place) :
      Walk t followLast links way (part :: rest) place
  | follow {links id : Nat} {way : List Nat} {part target : String} {rest : List String}
      {place : Tree.Place} (hpart : LooksUp t way part id) (hentry : t.entry id = .link target)
      (hlast : rest = [] → followLast) (htarget : target ≠ "")
      (hrest : Walk t followLast links (if (Path.ofString target).isAbsolute then [0] else way)
        ((Path.ofString target).parts ++ rest) place) :
      Walk t followLast (links + 1) way (part :: rest) place
  | link {links id : Nat} {way : List Nat} {part target : String} (hpart : LooksUp t way part id)
      (hentry : t.entry id = .link target) (hlast : followLast = false) :
      Walk t followLast links way [part] ⟨way, id⟩
  | leaf {links id : Nat} {way : List Nat} {part : String} (hpart : LooksUp t way part id)
      (hentry : (t.entry id).IsLeaf) : Walk t followLast links way [part] ⟨way, id⟩

section WalkParts

variable {t : Tree} {followLast : Bool} {links id : Nat} {way : List Nat} {part : String}
  {rest : List String} {place : Tree.Place}
  {follow : List Nat → List String → Except FileCause Tree.Place}

theorem LooksUp.walkParts_eq (h : LooksUp t way part id) :
    t.walkParts follow followLast way (part :: rest) = match t.entry id with
      | .directory _ => t.walkParts follow followLast (id :: way) rest
      | .link target =>
          if rest.isEmpty && !followLast then .ok ⟨way, id⟩
          else if target.isEmpty then .error .noEntry
          else follow (if (Path.ofString target).isAbsolute then [0] else way)
            ((Path.ofString target).parts ++ rest)
      | _ => if rest.isEmpty then .ok ⟨way, id⟩ else .error .notDirectory := by
  rw [Tree.walkParts.eq_4 _ _ _ _ _ _ h.notDot h.notDots, if_neg (Nat.not_lt.mpr h.short), h.named]
  rfl

theorem exists_looksUp (hdot : part ≠ ".") (hdots : part ≠ "..")
    (h : t.walkParts follow followLast way (part :: rest) = .ok place) :
    ∃ id, LooksUp t way part id := by
  rw [Tree.walkParts.eq_4 _ _ _ _ _ _ hdot hdots] at h
  by_cases hlong : Tree.nameLimit < part.utf8ByteSize
  · rw [if_pos hlong] at h
    cases h
  · rw [if_neg hlong] at h
    cases hnamed : (t.names (way.headD 0)).lookup part with
    | none =>
        rw [hnamed] at h
        cases h
    | some id => exact ⟨id, hdot, hdots, Nat.not_lt.mp hlong, hnamed⟩

/-- The walk goes on behind an entry, or it ends there. -/
theorem LooksUp.walk_of_walkParts (h : LooksUp t way part id)
    (hfollow : ∀ way parts place, follow way parts = .ok place →
      ∃ fewer, links = fewer + 1 ∧ Walk t followLast fewer way parts place)
    (hrest : ∀ way, t.walkParts follow followLast way rest = .ok place →
      Walk t followLast links way rest place)
    (hwalk : t.walkParts follow followLast way (part :: rest) = .ok place) :
    Walk t followLast links way (part :: rest) place := by
  rw [h.walkParts_eq] at hwalk
  have hleaf (hentry : (t.entry id).IsLeaf)
      (hwalk : (if rest.isEmpty then .ok ⟨way, id⟩ else .error .notDirectory) =
        (Except.ok place : Except FileCause Tree.Place)) :
      Walk t followLast links way (part :: rest) place := by
    cases rest with
    | nil =>
        cases hwalk
        exact .leaf h hentry
    | cons _ _ => cases hwalk
  cases hentry : t.entry id with
  | directory names =>
      rw [hentry] at hwalk
      exact .down h hentry (hrest _ hwalk)
  | link target =>
      simp only [hentry] at hwalk
      by_cases hlast : rest.isEmpty && !followLast
      · rw [if_pos hlast] at hwalk
        obtain ⟨rfl, rfl⟩ : rest = [] ∧ followLast = false := by simpa using hlast
        cases hwalk
        exact .link h hentry rfl
      · rw [if_neg hlast] at hwalk
        by_cases htarget : target.isEmpty
        · rw [if_pos htarget] at hwalk
          cases hwalk
        · rw [if_neg htarget] at hwalk
          obtain ⟨fewer, rfl, hbehind⟩ := hfollow _ _ _ hwalk
          refine .follow h hentry ?_ (by simpa using htarget) hbehind
          rintro rfl
          simpa using hlast
  | file bytes =>
      simp only [hentry] at hwalk
      exact hleaf (by rw [hentry]; trivial) hwalk
  | device =>
      simp only [hentry] at hwalk
      exact hleaf (by rw [hentry]; trivial) hwalk

theorem walk_of_walkParts
    (hfollow : ∀ way parts place, follow way parts = .ok place →
      ∃ fewer, links = fewer + 1 ∧ Walk t followLast fewer way parts place)
    {parts : List String} (h : t.walkParts follow followLast way parts = .ok place) :
    Walk t followLast links way parts place := by
  induction parts generalizing way with
  | nil =>
      cases h
      exact .arrived
  | cons part rest ih =>
      by_cases hdot : part = "."
      · subst hdot
        exact .stay rfl (ih h)
      · by_cases hdots : part = ".."
        · subst hdots
          exact .up rfl (ih h)
        · obtain ⟨id, hpart⟩ := exists_looksUp hdot hdots h
          exact hpart.walk_of_walkParts hfollow (fun _ => ih) h

end WalkParts

section Walk

variable {t t' : Tree} {followLast : Bool} {links : Nat} {way : List Nat} {parts : List String}
  {place : Tree.Place}

theorem walk_of_eq_ok (h : t.walk followLast links way parts = .ok place) :
    Walk t followLast links way parts place := by
  induction links generalizing way parts place with
  | zero => exact walk_of_walkParts (by rintro _ _ _ ⟨⟩) h
  | succ links ih => exact walk_of_walkParts (fun _ _ _ hbehind => ⟨links, rfl, ih hbehind⟩) h

def Tree.onward (t : Tree) (followLast : Bool) :
    Nat → List Nat → List String → Except FileCause Place
  | 0 => fun _ _ => .error .linkLoop
  | links + 1 => t.walk followLast links

theorem Tree.walk_eq_walkParts :
    t.walk followLast links = t.walkParts (t.onward followLast links) followLast := by
  cases links <;> rfl

/-- A walk that the rules allow is the one that is computed. -/
theorem Walk.eq_ok (h : Walk t followLast links way parts place) :
    t.walk followLast links way parts = .ok place := by
  rw [Tree.walk_eq_walkParts]
  induction h with
  | arrived => rfl
  | stay hpart _ ih =>
      subst hpart
      exact ih
  | up hpart _ ih =>
      subst hpart
      exact ih
  | down hpart hentry _ ih =>
      rw [hpart.walkParts_eq, hentry]
      exact ih
  | @follow _ _ _ _ target rest _ hpart hentry hlast htarget _ ih =>
      have hbehind : ¬(rest.isEmpty && !followLast) := by simpa using hlast
      rw [hpart.walkParts_eq]
      simp only [hentry]
      rw [if_neg hbehind, if_neg (by simpa using htarget), Tree.onward, Tree.walk_eq_walkParts]
      exact ih
  | link hpart hentry hlast =>
      rw [hpart.walkParts_eq, hentry, hlast]
      rfl
  | @leaf _ id _ _ hpart hentry =>
      rw [hpart.walkParts_eq]
      cases h : t.entry id with
      | file _ | device => rfl
      | directory _ | link _ =>
          rw [h] at hentry
          exact hentry.elim

theorem Tree.walk_eq_ok_iff : t.walk followLast links way parts = .ok place ↔
    Walk t followLast links way parts place :=
  ⟨walk_of_eq_ok, Walk.eq_ok⟩

/-- Behind a name at the end of a path lies an entry of the directory in front of it. -/
theorem Walk.parent {front : List String} {name : String} (hdot : name ≠ ".") (hdots : name ≠ "..")
    (h : Walk t false links way (front ++ [name]) place) :
    ∃ parent, Walk t true links way front parent ∧
      (t.names parent.id).lookup name = some place.id := by
  -- A rule concerns the first component: it is the name itself, or the name lies behind it.
  generalize hparts : front ++ [name] = parts at h
  induction h generalizing front with
  | arrived => simp at hparts
  | stay hpart _ ih =>
      rcases List.append_eq_cons_iff.mp hparts with ⟨-, hname⟩ | ⟨behind, rfl, hrest⟩
      · exact absurd ((List.cons.inj hname).1.trans hpart) hdot
      · obtain ⟨parent, hparent, hlookup⟩ := ih hrest.symm
        exact ⟨parent, .stay hpart hparent, hlookup⟩
  | up hpart _ ih =>
      rcases List.append_eq_cons_iff.mp hparts with ⟨-, hname⟩ | ⟨behind, rfl, hrest⟩
      · exact absurd ((List.cons.inj hname).1.trans hpart) hdots
      · obtain ⟨parent, hparent, hlookup⟩ := ih hrest.symm
        exact ⟨parent, .up hpart hparent, hlookup⟩
  | down hpart hentry hwalk ih =>
      rcases List.append_eq_cons_iff.mp hparts with ⟨rfl, hname⟩ | ⟨behind, rfl, hrest⟩
      · obtain ⟨rfl, rfl⟩ := List.cons.inj hname
        cases hwalk
        exact ⟨_, .arrived, hpart.named⟩
      · obtain ⟨parent, hparent, hlookup⟩ := ih hrest.symm
        exact ⟨parent, .down hpart hentry hparent, hlookup⟩
  | follow hpart hentry hlast htarget _ ih =>
      rcases List.append_eq_cons_iff.mp hparts with ⟨-, hname⟩ | ⟨behind, rfl, hrest⟩
      · exact absurd (hlast (List.cons.inj hname).2.symm) (by decide)
      · obtain ⟨parent, hparent, hlookup⟩ := ih (by rw [hrest, List.append_assoc])
        exact ⟨parent, .follow hpart hentry (fun _ => rfl) htarget hparent, hlookup⟩
  | link hpart _ _ | leaf hpart _ =>
      obtain ⟨rfl, hname⟩ := List.append_eq_singleton_iff.mp hparts |>.resolve_right (by simp)
      obtain rfl := List.singleton_inj.mp hname
      exact ⟨_, .arrived, hpart.named⟩

end Walk

/-! ### New files -/

/-- An entry when something new may have been put into its tree: a directory may have more names,
and a number that stood for nothing may stand for a file. -/
inductive Entry.Grows : Entry → Entry → Prop
  | same (entry : Entry) : Grows entry entry
  | named (names more : List (String × Nat)) : Grows (.directory names) (.directory (names ++ more))
  | made (bytes : List UInt8) : Grows .device (.file bytes)

section Entry

variable {entry after : Entry}

theorem Entry.Grows.file (h : entry.Grows after) {bytes : List UInt8}
    (hentry : entry = .file bytes) : after = .file bytes := by
  subst hentry
  cases h
  rfl

theorem Entry.Grows.link (h : entry.Grows after) {target : String}
    (hentry : entry = .link target) : after = .link target := by
  subst hentry
  cases h
  rfl

theorem Entry.Grows.directory (h : entry.Grows after) {names : List (String × Nat)}
    (hentry : entry = .directory names) : ∃ more, after = .directory (names ++ more) := by
  subst hentry
  cases h with
  | same _ => exact ⟨[], by rw [List.append_nil]⟩
  | named _ more => exact ⟨more, rfl⟩

theorem Entry.Grows.isLeaf (h : entry.Grows after) (hentry : entry.IsLeaf) : after.IsLeaf := by
  cases h with
  | same _ => exact hentry
  | named _ _ => exact hentry.elim
  | made _ => trivial

theorem Entry.Grows.trans {further : Entry} (h : entry.Grows after)
    (hmore : after.Grows further) : entry.Grows further := by
  cases h with
  | same _ => exact hmore
  | made bytes =>
      cases hmore with
      | same _ => exact .made bytes
  | named names more =>
      cases hmore with
      | same _ => exact .named names more
      | named _ others =>
          rw [List.append_assoc]
          exact .named names (more ++ others)

end Entry

def Tree.Grows (t t' : Tree) : Prop := ∀ id, (t.entry id).Grows (t'.entry id)

section Grows

variable {t t' : Tree} {followLast : Bool} {links id : Nat} {way : List Nat} {part : String}
  {parts : List String} {place : Tree.Place}

theorem Tree.Grows.refl (t : Tree) : t.Grows t := fun id => .same (t.entry id)

theorem Tree.Grows.trans {t'' : Tree} (h : t.Grows t') (hmore : t'.Grows t'') : t.Grows t'' :=
  fun id => (h id).trans (hmore id)

theorem Tree.names_eq (t : Tree) (id : Nat) : t.names id = match t.entry id with
    | .directory names => names
    | _ => [] := rfl

theorem LooksUp.grows (hpart : LooksUp t way part id) (h : t.Grows t') :
    LooksUp t' way part id := by
  refine ⟨hpart.notDot, hpart.notDots, hpart.short, ?_⟩
  have hnamed := hpart.named
  rw [Tree.names_eq] at hnamed
  cases hentry : t.entry (way.headD 0) with
  | directory names =>
      obtain ⟨more, hmore⟩ := (h _).directory hentry
      rw [hentry] at hnamed
      rw [Tree.names_eq, hmore]
      exact List.lookup_append.trans (by rw [hnamed, Option.some_or])
  | _ =>
      rw [hentry] at hnamed
      cases hnamed

/-- What is put where nothing was does not change where a path leads that led somewhere. -/
theorem Walk.grows (hwalk : Walk t followLast links way parts place) (h : t.Grows t') :
    Walk t' followLast links way parts place := by
  induction hwalk with
  | arrived => exact .arrived
  | stay hpart _ ih => exact .stay hpart ih
  | up hpart _ ih => exact .up hpart ih
  | down hpart hentry _ ih =>
      obtain ⟨more, hmore⟩ := (h _).directory hentry
      exact .down (hpart.grows h) hmore ih
  | follow hpart hentry hlast htarget _ ih =>
      exact .follow (hpart.grows h) ((h _).link hentry) hlast htarget ih
  | link hpart hentry hlast => exact .link (hpart.grows h) ((h _).link hentry) hlast
  | leaf hpart hentry => exact .leaf (hpart.grows h) ((h _).isLeaf hentry)

/-- Every path leads where it led before. -/
theorem Tree.Grows.find (h : t.Grows t') {p : Path} (hfound : t.find followLast p = .ok place) :
    t'.find followLast p = .ok place := by
  rw [Tree.find] at hfound ⊢
  by_cases hlong : pathLimit < p.toString.utf8ByteSize
  · rw [if_pos hlong] at hfound
    cases hfound
  · rw [if_neg hlong] at hfound ⊢
    exact Tree.walk_eq_ok_iff.mpr ((Tree.walk_eq_ok_iff.mp hfound).grows h)

structure Tree.Keeps (t t' : Tree) : Prop where
  found : ∀ {followLast : Bool} {p : Path} {place : Place},
    t.find followLast p = .ok place → t'.find followLast p = .ok place
  file : ∀ {id : Nat} {bytes : List UInt8}, t.entry id = .file bytes → t'.entry id = .file bytes
  link : ∀ {id : Nat} {target : String}, t.entry id = .link target → t'.entry id = .link target

theorem Tree.Grows.keeps (h : t.Grows t') : t.Keeps t' where
  found := h.find
  file hentry := (h _).file hentry
  link hentry := (h _).link hentry

end Grows

structure Created (t : Tree) (p : Path) (entry : Entry) (t' : Tree) (front : List String)
    (name : String) (parent : Tree.Place) : Prop where
  parts : p.parts = front ++ [name]
  notDots : name ≠ ".."
  walk : t.walk true Tree.linkLimit [0] front = .ok parent
  directory : t.isDirectory parent.id
  free : (t.names parent.id).lookup name = none
  inserted : t' = t.insert parent.id name entry

section Create

variable {t t' : Tree} {p : Path} {entry : Entry}

theorem Tree.created_of_create (h : t.create p entry = .ok t') :
    ∃ front name parent, Created t p entry t' front name parent := by
  unfold create at h
  split at h
  · cases h
  split at h
  · cases hfound : t.find true p <;> rw [hfound] at h <;> cases h
  · cases hfound : t.find true p <;> rw [hfound] at h <;> cases h
  · rename_i name hdots hlast
    obtain ⟨front, hparts⟩ := List.getLast?_eq_some_iff.mp hlast
    rw [hparts, List.dropLast_concat] at h
    cases hwalk : t.walk true linkLimit [0] front with
    | error cause =>
        rw [hwalk] at h
        cases h
    | ok parent =>
        rw [hwalk] at h
        simp only [bind, Except.bind, pure, Except.pure] at h
        split at h
        · cases h
        rename_i hdirectory
        split at h
        · cases h
        split at h
        · cases h
        rename_i hfree
        cases h
        exact ⟨front, name, parent, hparts, hdots, hwalk, by simpa using hdirectory, hfree, rfl⟩

theorem Tree.exists_names {id : Nat} (h : t.isDirectory id) :
    ∃ names, t.entry id = .directory names := by
  unfold isDirectory at h
  split at h
  · rename_i names hentry
    exact ⟨names, hentry⟩
  · cases h

theorem Tree.entry_of_size_le {id : Nat} (h : t.entries.size ≤ id) : t.entry id = .device := by
  rw [Tree.entry, Array.getD_eq_getD_getElem?, Array.getElem?_eq_none h, Option.getD_none]

theorem Tree.entry_insert {directory : Nat} {names : List (String × Nat)} {name : String}
    (hdirectory : t.entry directory = .directory names) (id : Nat) :
    (t.insert directory name entry).entry id =
      if id = directory then .directory (names ++ [(name, t.entries.size)])
      else if id = t.entries.size then entry
      else t.entry id := by
  have hlt : directory < t.entries.size := by
    refine Nat.not_le.mp fun hout => ?_
    rw [entry_of_size_le hout] at hdirectory
    cases hdirectory
  rw [Tree.entry, Array.getD_eq_getD_getElem?] at hdirectory ⊢
  rw [insert, Array.getElem?_modify, Array.getElem?_push]
  by_cases hid : id = directory
  · subst hid
    rw [if_pos rfl, if_pos rfl, if_neg (Nat.ne_of_lt hlt)]
    cases hold : t.entries[id]? with
    | none =>
        rw [hold] at hdirectory
        cases hdirectory
    | some old =>
        rw [hold, Option.getD_some] at hdirectory
        rw [hdirectory]
        rfl
  · rw [if_neg (Ne.symm hid), if_neg hid]
    by_cases hnew : id = t.entries.size
    · rw [if_pos hnew, if_pos hnew, Option.getD_some]
    · rw [if_neg hnew, if_neg hnew, Tree.entry, Array.getD_eq_getD_getElem?]

theorem Created.grows {bytes : List UInt8} {front : List String} {name : String}
    {parent : Tree.Place} (h : Created t p (.file bytes) t' front name parent) : t.Grows t' := by
  obtain ⟨names, hnames⟩ := Tree.exists_names h.directory
  intro id
  rw [h.inserted, Tree.entry_insert hnames]
  by_cases hparent : id = parent.id
  · rw [if_pos hparent, hparent, hnames]
    exact .named names _
  · rw [if_neg hparent]
    by_cases hnew : id = t.entries.size
    · rw [if_pos hnew, Tree.entry_of_size_le (Nat.le_of_eq hnew.symm)]
      exact .made bytes
    · rw [if_neg hnew]
      exact .same _

/-- Nothing stood at a path where something could be made. -/
theorem Created.not_found {front : List String} {name : String} {parent place : Tree.Place}
    (h : Created t p entry t' front name parent) (hdot : name ≠ ".") :
    t.find false p ≠ .ok place := by
  intro hfound
  rw [Tree.find] at hfound
  split at hfound
  · cases hfound
  · rw [h.parts] at hfound
    obtain ⟨other, hother, hlookup⟩ := (Tree.walk_eq_ok_iff.mp hfound).parent hdot h.notDots
    have hsame : other = parent :=
      Except.ok.inj ((Tree.walk_eq_ok_iff.mpr hother).symm.trans h.walk)
    rw [hsame, h.free] at hlookup
    cases hlookup

end Create

end AppSupervisor.Files
