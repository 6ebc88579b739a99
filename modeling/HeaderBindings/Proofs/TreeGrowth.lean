import HeaderBindings.FileTree.Operations
import Mathlib.Logic.Basic

/-!
# Trees that grow

Writing files and making directories lets a tree *grow*: what is there stays what
it is, and only the contents of files change.  A path that leads somewhere leads
to the same place afterwards.

**Method.**  `Leads` says which place a path leads to by one rule for each kind of
step.  `place_eq_ok_iff` ties it to the search of a tree, and every comparison of two
trees is an induction over the rules.

**Results.**
* `write_spec`: what is written is found under its path.
* `Grows.place`: places that are taken stay where they are.
* `AddsFiles.exists_write`: files that were added are not what lets a later file be written.
* `makeDirectories_again`: a directory that was made need not be made again.
-/

namespace HeaderBindings

/-- Whether an entry stays what it is; a file may change its content. -/
def Entry.Alike : Entry → Entry → Prop
  | .file _, other => ∃ content, other = .file content
  | entry, other => other = entry

namespace FileTree

section Leading

/-- Whether a segment is the name of an entry. -/
def IsName (segment : String) : Prop :=
  segment ≠ "." ∧ segment ≠ ".." ∧ ¬maxName < segment.utf8ByteSize

/-- The place that segments lead to from a directory, through at most `links` links. -/
inductive Leads (tree : FileTree) (purpose : Purpose) :
    Nat → Bool → Location → List String → Place → Prop
  | arrive {links : Nat} {slash : Bool} {directory : Location} :
      Leads tree purpose links slash directory [] (.taken directory .directory)
  | stay {links : Nat} {slash : Bool} {directory : Location} {rest : List String}
      {place : Place} :
      Leads tree purpose links slash directory rest place →
      Leads tree purpose links slash directory ("." :: rest) place
  | up {links : Nat} {slash : Bool} {directory : Location} {rest : List String}
      {place : Place} :
      Leads tree purpose links slash directory.dropLast rest place →
      Leads tree purpose links slash directory (".." :: rest) place
  | free {links : Nat} {slash : Bool} {directory : Location} {segment : String} :
      IsName segment →
      ¬(slash = true ∧ purpose = .write) →
      tree.entryAt? (directory ++ [segment]) = none →
      Leads tree purpose links slash directory [segment] (.free directory segment)
  | file {links : Nat} {slash : Bool} {directory : Location} {segment : String}
      {content : ByteArray} :
      IsName segment →
      slash = false ∨ purpose = .make →
      tree.entryAt? (directory ++ [segment]) = some (.file content) →
      Leads tree purpose links slash directory [segment]
        (.taken (directory ++ [segment]) (.file content))
  | enter {links : Nat} {slash : Bool} {directory : Location} {segment : String}
      {rest : List String} {place : Place} :
      IsName segment →
      ¬(rest = [] ∧ slash = true ∧ purpose = .write) →
      tree.entryAt? (directory ++ [segment]) = some .directory →
      Leads tree purpose links slash (directory ++ [segment]) rest place →
      Leads tree purpose links slash directory (segment :: rest) place
  | keepLink {links : Nat} {slash : Bool} {directory : Location} {segment : String}
      {target : Path} :
      IsName segment →
      purpose = .make →
      tree.entryAt? (directory ++ [segment]) = some (.link target) →
      Leads tree purpose links slash directory [segment]
        (.taken (directory ++ [segment]) (.link target))
  | throughLink {links : Nat} {slash : Bool} {directory : Location} {segment : String}
      {rest : List String} {target : Path} {place : Place} :
      IsName segment →
      ¬(rest = [] ∧ slash = true ∧ purpose = .write) →
      ¬(rest = [] ∧ purpose = .make) →
      tree.entryAt? (directory ++ [segment]) = some (.link target) →
      Leads tree purpose links (slash || (rest.isEmpty && endsWithSlash target))
        (if target.isAbsolute then [] else directory) (waySegments target ++ rest) place →
      Leads tree purpose (links + 1) slash directory (segment :: rest) place

/-- One step of the search of a tree. -/
theorem follow_cons (tree : FileTree) (purpose : Purpose) (links : Nat) (slash : Bool)
    (directory : Location) (segment : String) (rest : List String) :
    tree.follow purpose links slash directory (segment :: rest) =
      if segment = "." then tree.follow purpose links slash directory rest
      else if segment = ".." then tree.follow purpose links slash directory.dropLast rest
      else if rest.isEmpty && slash && purpose = .write then .error .isDirectory
      else if maxName < segment.utf8ByteSize then .error .nameTooLong
      else
        match tree.entryAt? (directory ++ [segment]) with
        | none => if rest.isEmpty then .ok (.free directory segment) else .error .notFound
        | some .directory => tree.follow purpose links slash (directory ++ [segment]) rest
        | some (.file content) =>
            if rest.isEmpty && (!slash || purpose = .make) then
              .ok (.taken (directory ++ [segment]) (.file content))
            else .error .notDirectory
        | some (.link target) =>
            if rest.isEmpty && purpose = .make then
              .ok (.taken (directory ++ [segment]) (.link target))
            else
              match links with
              | 0 => .error .tooManyLinks
              | links + 1 =>
                  tree.follow purpose links (slash || (rest.isEmpty && endsWithSlash target))
                    (if target.isAbsolute then [] else directory)
                    (waySegments target ++ rest) := by
  cases links <;> rfl

theorem follow_nil (tree : FileTree) (purpose : Purpose) (links : Nat) (slash : Bool)
    (directory : Location) :
    tree.follow purpose links slash directory [] = .ok (.taken directory .directory) := by
  cases links <;> rfl

/-- A search of a tree that ends at a place goes by the rules. -/
theorem leads_of_follow {tree : FileTree} {purpose : Purpose} {links : Nat} {slash : Bool}
    {directory : Location} {segments : List String} {place : Place}
    (hfollow : tree.follow purpose links slash directory segments = .ok place) :
    Leads tree purpose links slash directory segments place := by
  induction links using Nat.strongRecOn generalizing slash directory segments with
  | ind links ihLinks =>
      induction segments generalizing directory with
      | nil =>
          rw [follow_nil] at hfollow
          obtain rfl := Except.ok.inj hfollow
          exact .arrive
      | cons segment rest ihRest =>
          rw [follow_cons] at hfollow
          split at hfollow
          · next hhere =>
              subst hhere
              exact .stay (ihRest hfollow)
          split at hfollow
          · next hup =>
              subst hup
              exact .up (ihRest hfollow)
          split at hfollow
          · simp at hfollow
          split at hfollow
          · simp at hfollow
          next hhere hup hslash hlong =>
          have hname : IsName segment := ⟨hhere, hup, hlong⟩
          simp only [Bool.and_eq_true, List.isEmpty_iff, decide_eq_true_eq, and_assoc] at hslash
          split at hfollow
          · next hentry =>
              split at hfollow
              · next hempty =>
                  obtain rfl := Except.ok.inj hfollow
                  obtain rfl := List.isEmpty_iff.1 hempty
                  exact .free hname (fun hboth => hslash ⟨rfl, hboth⟩) hentry
              · simp at hfollow
          · next hentry => exact .enter hname hslash hentry (ihRest hfollow)
          · next content hentry =>
              split at hfollow
              · next hlast =>
                  obtain rfl := Except.ok.inj hfollow
                  simp only [Bool.and_eq_true, List.isEmpty_iff, Bool.or_eq_true,
                    Bool.not_eq_true', decide_eq_true_eq] at hlast
                  obtain ⟨rfl, hlast⟩ := hlast
                  exact .file hname hlast hentry
              · simp at hfollow
          · next target hentry =>
              split at hfollow
              · next hlast =>
                  obtain rfl := Except.ok.inj hfollow
                  simp only [Bool.and_eq_true, List.isEmpty_iff, decide_eq_true_eq] at hlast
                  obtain ⟨rfl, hmake⟩ := hlast
                  exact .keepLink hname hmake hentry
              · next hlast =>
                  simp only [Bool.and_eq_true, List.isEmpty_iff, decide_eq_true_eq] at hlast
                  split at hfollow
                  · simp at hfollow
                  · next fewer =>
                      exact .throughLink hname hslash hlast hentry
                        (ihLinks fewer (Nat.lt_succ_self fewer) hfollow)

/-- The rules give the search of a tree. -/
theorem Leads.follow {tree : FileTree} {purpose : Purpose} {links : Nat} {slash : Bool}
    {directory : Location} {segments : List String} {place : Place}
    (hleads : Leads tree purpose links slash directory segments place) :
    tree.follow purpose links slash directory segments = .ok place := by
  induction hleads with
  | arrive => exact follow_nil _ _ _ _ _
  | stay _ ih => rw [follow_cons, if_pos rfl, ih]
  | up _ ih => rw [follow_cons, if_neg (by decide), if_pos rfl, ih]
  | free hname hslash hentry =>
      obtain ⟨hhere, hup, hlong⟩ := hname
      rw [follow_cons, if_neg hhere, if_neg hup, if_neg (by simpa using hslash), if_neg hlong]
      simp [hentry]
  | file hname hlast hentry =>
      obtain ⟨hhere, hup, hlong⟩ := hname
      rw [follow_cons, if_neg hhere, if_neg hup, if_neg ?_, if_neg hlong]
      · simp [hentry, hlast]
      · rcases hlast with rfl | rfl <;> simp
  | enter hname hslash hentry _ ih =>
      obtain ⟨hhere, hup, hlong⟩ := hname
      rw [follow_cons, if_neg hhere, if_neg hup, if_neg (by simpa [and_assoc] using hslash),
        if_neg hlong]
      simp [hentry, ih]
  | keepLink hname hmake hentry =>
      obtain ⟨hhere, hup, hlong⟩ := hname
      rw [follow_cons, if_neg hhere, if_neg hup, if_neg (by simp [hmake]), if_neg hlong]
      simp [hentry, hmake]
  | throughLink hname hslash hlast hentry _ ih =>
      obtain ⟨hhere, hup, hlong⟩ := hname
      rw [follow_cons, if_neg hhere, if_neg hup, if_neg (by simpa [and_assoc] using hslash),
        if_neg hlong]
      simp only [hentry]
      rw [if_neg (by simpa using hlast), ih]

end Leading

section Places

/-- Whether the system takes a path at all. -/
def IsUsable (path : Path) : Prop :=
  path.text.toList.contains '\x00' = false ∧ path.text.isEmpty = false ∧
    ¬maxPath < path.text.utf8ByteSize

/-- The directory that a path starts from. -/
def startOf (tree : FileTree) (path : Path) : Location :=
  if path.isAbsolute then [] else tree.working

/-- A path names a place exactly when the rules lead there. -/
theorem place_eq_ok_iff {tree : FileTree} {purpose : Purpose} {path : Path} {place : Place} :
    tree.place purpose path = .ok place ↔
      IsUsable path ∧
        Leads tree purpose maxLinks (endsWithSlash path) (tree.startOf path) (waySegments path)
          place := by
  unfold FileTree.place IsUsable startOf
  constructor
  · intro hplace
    split at hplace
    · simp at hplace
    split at hplace
    · simp at hplace
    split at hplace
    · simp at hplace
    next hnul hempty hlong =>
    exact ⟨⟨by simpa using hnul, by simpa using hempty, hlong⟩, leads_of_follow hplace⟩
  · rintro ⟨⟨hnul, hempty, hlong⟩, hleads⟩
    rw [if_neg (by rw [hnul]; simp), if_neg (by rw [hempty]; simp), if_neg hlong]
    exact hleads.follow

end Places

section Growth

/-- Everything in a tree stays what it is. -/
structure Grows (old new : FileTree) : Prop where
  working : new.working = old.working
  kept : ∀ location entry, old.entryAt? location = some entry →
    ∃ after, new.entryAt? location = some after ∧ entry.Alike after

theorem Grows.refl (tree : FileTree) : Grows tree tree where
  working := rfl
  kept := by
    intro location entry hentry
    refine ⟨entry, hentry, ?_⟩
    cases entry <;> simp [Entry.Alike]

theorem Grows.trans {first second third : FileTree} (h : Grows first second)
    (h' : Grows second third) : Grows first third where
  working := h'.working.trans h.working
  kept := by
    intro location entry hentry
    obtain ⟨next, hnext, halike⟩ := h.kept location entry hentry
    obtain ⟨last, hlast, halike'⟩ := h'.kept location next hnext
    refine ⟨last, hlast, ?_⟩
    cases entry with
    | file content =>
        obtain ⟨_, rfl⟩ := halike
        exact halike'
    | directory =>
        obtain rfl : next = .directory := halike
        exact halike'
    | link target =>
        obtain rfl : next = .link target := halike
        exact halike'

/-- Everything in a tree stays as it is, contents of files included. -/
structure Extends (old new : FileTree) : Prop where
  working : new.working = old.working
  kept : ∀ location entry, old.entryAt? location = some entry →
    new.entryAt? location = some entry

theorem Extends.refl (tree : FileTree) : Extends tree tree where
  working := rfl
  kept := fun _ _ hentry => hentry

theorem Extends.trans {first second third : FileTree} (h : Extends first second)
    (h' : Extends second third) : Extends first third where
  working := h'.working.trans h.working
  kept := fun location entry hentry => h'.kept location entry (h.kept location entry hentry)

theorem Extends.grows {old new : FileTree} (h : Extends old new) : Grows old new where
  working := h.working
  kept := by
    intro location entry hentry
    refine ⟨entry, h.kept location entry hentry, ?_⟩
    cases entry <;> simp [Entry.Alike]

variable {old new : FileTree}

theorem Grows.directory (hgrows : Grows old new) {location : Location}
    (hentry : old.entryAt? location = some .directory) :
    new.entryAt? location = some .directory := by
  obtain ⟨after, hafter, halike⟩ := hgrows.kept location .directory hentry
  obtain rfl : after = .directory := halike
  exact hafter

theorem Grows.link (hgrows : Grows old new) {location : Location} {target : Path}
    (hentry : old.entryAt? location = some (.link target)) :
    new.entryAt? location = some (.link target) := by
  obtain ⟨after, hafter, halike⟩ := hgrows.kept location (.link target) hentry
  obtain rfl : after = .link target := halike
  exact hafter

theorem Grows.file (hgrows : Grows old new) {location : Location} {content : ByteArray}
    (hentry : old.entryAt? location = some (.file content)) :
    ∃ changed, new.entryAt? location = some (.file changed) := by
  obtain ⟨after, hafter, changed, rfl⟩ := hgrows.kept location (.file content) hentry
  exact ⟨changed, hafter⟩

/-- A place that is taken stays where it is.  What a path is followed for may change from
writing to looking. -/
theorem Leads.grows (hgrows : Grows old new) {purpose other : Purpose}
    (hwrite : other = .write → purpose = .write) (hmake : other = .make ↔ purpose = .make)
    {links : Nat} {slash : Bool} {directory location : Location} {segments : List String}
    {entry : Entry}
    (hleads : Leads old purpose links slash directory segments (.taken location entry)) :
    ∃ after, Leads new other links slash directory segments (.taken location after) ∧
      entry.Alike after := by
  generalize hplace : Place.taken location entry = place at hleads
  induction hleads with
  | arrive =>
      obtain ⟨rfl, rfl⟩ := Place.taken.inj hplace
      exact ⟨.directory, .arrive, rfl⟩
  | stay _ ih =>
      obtain ⟨after, hafter, halike⟩ := ih hplace
      exact ⟨after, .stay hafter, halike⟩
  | up _ ih =>
      obtain ⟨after, hafter, halike⟩ := ih hplace
      exact ⟨after, .up hafter, halike⟩
  | free => simp at hplace
  | file hname hlast hentry =>
      obtain ⟨rfl, rfl⟩ := Place.taken.inj hplace
      obtain ⟨changed, hchanged⟩ := hgrows.file hentry
      exact ⟨.file changed, .file hname (hlast.imp_right hmake.2) hchanged, changed, rfl⟩
  | enter hname hslash hentry _ ih =>
      obtain ⟨after, hafter, halike⟩ := ih hplace
      refine ⟨after, .enter hname ?_ (hgrows.directory hentry) hafter, halike⟩
      rintro ⟨hrest, hs, hpurpose⟩
      exact hslash ⟨hrest, hs, hwrite hpurpose⟩
  | keepLink hname hpurpose hentry =>
      obtain ⟨rfl, rfl⟩ := Place.taken.inj hplace
      exact ⟨_, .keepLink hname (hmake.2 hpurpose) (hgrows.link hentry), rfl⟩
  | throughLink hname hslash hlast hentry _ ih =>
      obtain ⟨after, hafter, halike⟩ := ih hplace
      refine ⟨after, .throughLink hname ?_ ?_ (hgrows.link hentry) hafter, halike⟩
      · rintro ⟨hrest, hs, hpurpose⟩
        exact hslash ⟨hrest, hs, hwrite hpurpose⟩
      · rintro ⟨hrest, hpurpose⟩
        exact hlast ⟨hrest, hmake.1 hpurpose⟩

/-- A free name is really free. -/
theorem Leads.entryAt?_of_free {purpose : Purpose} {links : Nat} {slash : Bool}
    {directory parent : Location} {segments : List String} {name : String}
    (hleads : Leads old purpose links slash directory segments (.free parent name)) :
    old.entryAt? (parent ++ [name]) = none := by
  generalize hplace : Place.free parent name = place at hleads
  induction hleads with
  | arrive => simp at hplace
  | stay _ ih => exact ih hplace
  | up _ ih => exact ih hplace
  | free _ _ hentry =>
      obtain ⟨rfl, rfl⟩ := Place.free.inj hplace
      exact hentry
  | file => simp at hplace
  | enter _ _ _ _ ih => exact ih hplace
  | keepLink => simp at hplace
  | throughLink _ _ _ _ _ ih => exact ih hplace

/-- What stands where a path was free is found under that path: a directory always, and a file
if the path was followed to write one. -/
theorem Leads.fill (hgrows : Grows old new) {purpose : Purpose} {links : Nat} {slash : Bool}
    {directory parent : Location} {segments : List String} {name : String} {entry : Entry}
    (hleads : Leads old purpose links slash directory segments (.free parent name))
    (hentry : new.entryAt? (parent ++ [name]) = some entry)
    (hfits : entry = .directory ∨ purpose = .write ∧ ∃ content, entry = .file content) :
    Leads new .look links slash directory segments (.taken (parent ++ [name]) entry) := by
  generalize hplace : Place.free parent name = place at hleads
  induction hleads with
  | arrive => simp at hplace
  | stay _ ih => exact .stay (ih hplace)
  | up _ ih => exact .up (ih hplace)
  | free hname hslash _ =>
      obtain ⟨rfl, rfl⟩ := Place.free.inj hplace
      rcases hfits with rfl | ⟨rfl, content, rfl⟩
      · exact .enter hname (by simp) hentry .arrive
      · exact .file hname (Or.inl (by simpa using hslash)) hentry
  | file => simp at hplace
  | enter hname _ hdirectory _ ih =>
      exact .enter hname (by simp) (hgrows.directory hdirectory) (ih hplace)
  | keepLink => simp at hplace
  | throughLink hname _ _ hlink _ ih =>
      exact .throughLink hname (by simp) (by simp) (hgrows.link hlink) (ih hplace)

/-- The file at the end of a path is what stands there. -/
theorem Leads.entryAt?_of_file {purpose : Purpose} {links : Nat} {slash : Bool}
    {directory location : Location} {segments : List String} {content : ByteArray}
    (hleads : Leads old purpose links slash directory segments
      (.taken location (.file content))) :
    old.entryAt? location = some (.file content) ∧ location ≠ [] := by
  generalize hplace : Place.taken location (.file content) = place at hleads
  induction hleads with
  | arrive => simp at hplace
  | stay _ ih => exact ih hplace
  | up _ ih => exact ih hplace
  | free => simp at hplace
  | file _ _ hentry =>
      obtain ⟨rfl, heq⟩ := Place.taken.inj hplace
      obtain rfl := Entry.file.inj heq
      exact ⟨hentry, by simp⟩
  | enter _ _ _ _ ih => exact ih hplace
  | keepLink => simp at hplace
  | throughLink _ _ _ _ _ ih => exact ih hplace

end Growth

section Writing

variable {tree written : FileTree} {path : Path} {content : ByteArray}

/-- Putting an entry where nothing else was lets a tree grow. -/
theorem grows_put {location : Location} {entry : Entry} (hlocation : location ≠ [])
    (hbefore : ∀ before, tree.entryAt? location = some before → before.Alike entry) :
    Grows tree (tree.put location entry) where
  working := rfl
  kept := by
    intro other before hother
    by_cases heq : other = location
    · subst heq
      exact ⟨entry, entryAt?_put_self tree entry hlocation, hbefore before hother⟩
    · rw [entryAt?_put_of_ne tree entry heq]
      exact (Grows.refl tree).kept other before hother

/-- Places that are taken stay where they are. -/
theorem Grows.place {old new : FileTree} (hgrows : Grows old new) {purpose : Purpose}
    (other : Purpose) (hwrite : other = .write → purpose = .write)
    (hmake : other = .make ↔ purpose = .make)
    {location : Location} {entry : Entry}
    (hplace : old.place purpose path = .ok (.taken location entry)) :
    ∃ after, new.place other path = .ok (.taken location after) ∧ entry.Alike after := by
  obtain ⟨husable, hleads⟩ := place_eq_ok_iff.1 hplace
  obtain ⟨after, hafter, halike⟩ := hleads.grows hgrows hwrite hmake
  refine ⟨after, place_eq_ok_iff.2 ⟨husable, ?_⟩, halike⟩
  have hstart : new.startOf path = old.startOf path := by
    simp [startOf, hgrows.working]
  rw [hstart]
  exact hafter

/-- A file that keeps its content is found with it. -/
theorem Grows.place_file {old new : FileTree} (hgrows : Grows old new) {location : Location}
    (hplace : old.place .look path = .ok (.taken location (.file content)))
    (hentry : new.entryAt? location = some (.file content)) :
    new.place .look path = .ok (.taken location (.file content)) := by
  obtain ⟨after, hafter, changed, rfl⟩ := hgrows.place .look (by simp) (by simp) hplace
  have hfile := (place_eq_ok_iff.1 hafter).2.entryAt?_of_file.1
  rw [hentry] at hfile
  obtain rfl := Entry.file.inj (Option.some.inj hfile)
  exact hafter

theorem Extends.place_file {old new : FileTree} (hextends : Extends old new)
    {location : Location}
    (hplace : old.place .look path = .ok (.taken location (.file content))) :
    new.place .look path = .ok (.taken location (.file content)) :=
  hextends.grows.place_file hplace
    (hextends.kept _ _ (place_eq_ok_iff.1 hplace).2.entryAt?_of_file.1)

/-- What is written stands at one location and is found under its path. -/
theorem write_spec (hwrite : tree.write path content = .ok written) :
    ∃ location, location ≠ [] ∧ written = tree.put location (.file content) ∧
      Grows tree written ∧
      written.place .look path = .ok (.taken location (.file content)) := by
  unfold write at hwrite
  split at hwrite
  · simp at hwrite
  · next location before hplace =>
      obtain rfl := Except.ok.inj hwrite
      obtain ⟨_, hleads⟩ := place_eq_ok_iff.1 hplace
      obtain ⟨hentry, hne⟩ := hleads.entryAt?_of_file
      have hgrows : Grows tree (tree.put location (.file content)) := by
        refine grows_put hne ?_
        intro found hfound
        rw [hentry] at hfound
        obtain rfl := Option.some.inj hfound
        exact ⟨content, rfl⟩
      obtain ⟨after, hafter, changed, rfl⟩ :=
        hgrows.place .look (by simp) (by simp) hplace
      have hfile := (place_eq_ok_iff.1 hafter).2.entryAt?_of_file.1
      rw [entryAt?_put_self tree _ hne] at hfile
      obtain rfl := Entry.file.inj (Option.some.inj hfile)
      exact ⟨location, hne, rfl, hgrows, hafter⟩
  · simp at hwrite
  · next directory name hplace =>
      obtain rfl := Except.ok.inj hwrite
      obtain ⟨husable, hleads⟩ := place_eq_ok_iff.1 hplace
      have hne : directory ++ [name] ≠ [] := by simp
      have hgrows : Grows tree (tree.put (directory ++ [name]) (.file content)) := by
        refine grows_put hne ?_
        intro found hfound
        rw [hleads.entryAt?_of_free] at hfound
        simp at hfound
      refine ⟨directory ++ [name], hne, rfl, hgrows, place_eq_ok_iff.2 ⟨husable, ?_⟩⟩
      exact hleads.fill hgrows (entryAt?_put_self tree _ hne) (Or.inr ⟨rfl, content, rfl⟩)

/-- A file at another place keeps its content when one is written. -/
theorem write_place_of_ne (hwrite : tree.write path content = .ok written) {other : Path}
    {location : Location} {kept : ByteArray}
    (hother : tree.place .look other = .ok (.taken location (.file kept)))
    (hne : written.canonical? other ≠ written.canonical? path) :
    written.place .look other = .ok (.taken location (.file kept)) := by
  obtain ⟨target, _, rfl, hgrows, hplace⟩ := write_spec hwrite
  obtain ⟨after, hafter, _⟩ := hgrows.place .look (by simp) (by simp) hother
  have hentry := (place_eq_ok_iff.1 hother).2.entryAt?_of_file.1
  refine hgrows.place_file hother ?_
  rw [entryAt?_put_of_ne tree _ ?_]
  · exact hentry
  · rintro rfl
    apply hne
    unfold canonical?
    rw [hplace, hafter]

/-- What is written can be read. -/
theorem readBytes_write (hwrite : tree.write path content = .ok written) :
    written.readBytes path = .ok content := by
  obtain ⟨location, _, _, _, hplace⟩ := write_spec hwrite
  simp [readBytes, hplace]

end Writing

section Directories

variable {tree made later : FileTree} {path : Path}

/-- What can be found can not be made again. -/
theorem Leads.make_of_look {links : Nat} {slash : Bool} {directory location : Location}
    {segments : List String} {entry : Entry}
    (hleads : Leads tree .look links slash directory segments (.taken location entry)) :
    ∃ stop kept, Leads tree .make links slash directory segments (.taken stop kept) := by
  generalize hplace : Place.taken location entry = place at hleads
  induction hleads with
  | arrive => exact ⟨_, _, .arrive⟩
  | stay _ ih =>
      obtain ⟨stop, kept, hkept⟩ := ih hplace
      exact ⟨stop, kept, .stay hkept⟩
  | up _ ih =>
      obtain ⟨stop, kept, hkept⟩ := ih hplace
      exact ⟨stop, kept, .up hkept⟩
  | free => simp at hplace
  | file hname _ hentry => exact ⟨_, _, .file hname (Or.inr rfl) hentry⟩
  | enter hname _ hentry _ ih =>
      obtain ⟨stop, kept, hkept⟩ := ih hplace
      exact ⟨stop, kept, .enter hname (by simp) hentry hkept⟩
  | keepLink _ hpurpose => simp at hpurpose
  | @throughLink _ _ _ _ rest _ _ hname _ _ hentry _ ih =>
      -- A link at the very end is not followed.
      by_cases hrest : rest = []
      · subst hrest
        exact ⟨_, _, .keepLink hname rfl hentry⟩
      · obtain ⟨stop, kept, hkept⟩ := ih hplace
        exact ⟨stop, kept, .throughLink hname (by simp) (by simp [hrest]) hentry hkept⟩

theorem isDirectory_iff :
    tree.isDirectory path = true ↔
      ∃ location, tree.place .look path = .ok (.taken location .directory) := by
  unfold isDirectory
  split
  · next location hplace => simp [hplace]
  · next hother =>
      simp only [Bool.false_eq_true, false_iff, not_exists]
      exact hother

/-- A directory stays a directory. -/
theorem Grows.isDirectory {old new : FileTree} (hgrows : Grows old new)
    (hdirectory : old.isDirectory path = true) : new.isDirectory path = true := by
  obtain ⟨location, hplace⟩ := isDirectory_iff.1 hdirectory
  obtain ⟨after, hafter, halike⟩ := hgrows.place .look (by simp) (by simp) hplace
  obtain rfl : after = .directory := halike
  exact isDirectory_iff.2 ⟨location, hafter⟩

/-- A directory that was made is there. -/
theorem make_spec (hmake : tree.make path .directory = .ok made) :
    Extends tree made ∧ made.isDirectory path = true := by
  unfold make at hmake
  split at hmake
  · simp at hmake
  · simp at hmake
  · next parent name hplace =>
      obtain rfl := Except.ok.inj hmake
      obtain ⟨husable, hleads⟩ := place_eq_ok_iff.1 hplace
      have hextends : Extends tree (tree.put (parent ++ [name]) .directory) := by
        refine ⟨rfl, fun location entry hentry => ?_⟩
        rw [entryAt?_put_of_ne tree _ ?_]
        · exact hentry
        · rintro rfl
          simp [hleads.entryAt?_of_free] at hentry
      refine ⟨hextends, isDirectory_iff.2 ⟨parent ++ [name], place_eq_ok_iff.2 ⟨husable, ?_⟩⟩⟩
      exact hleads.fill hextends.grows (entryAt?_put_self tree _ (by simp)) (Or.inl rfl)

/-- A directory that is there is not made again. -/
theorem ensureDirectory_of_isDirectory (hdirectory : tree.isDirectory path = true) :
    tree.ensureDirectory path = (tree, .ok ()) := by
  obtain ⟨location, hplace⟩ := isDirectory_iff.1 hdirectory
  obtain ⟨husable, hleads⟩ := place_eq_ok_iff.1 hplace
  obtain ⟨stop, kept, hkept⟩ := hleads.make_of_look
  have hmake : tree.make path .directory = .error .alreadyExists := by
    unfold make
    rw [place_eq_ok_iff.2 ⟨husable, hkept⟩]
  simp [ensureDirectory, hmake, hdirectory]

/-- Asking for a directory changes nothing that is there, and the directory is there if this
succeeds. -/
theorem ensureDirectory_spec (tree : FileTree) (path : Path) :
    Extends tree (tree.ensureDirectory path).1 ∧
      ((tree.ensureDirectory path).2 = .ok () →
        (tree.ensureDirectory path).1.isDirectory path = true) := by
  unfold ensureDirectory
  split
  · next made hmake =>
      obtain ⟨hextends, hdirectory⟩ := make_spec hmake
      exact ⟨hextends, fun _ => hdirectory⟩
  · split
    · next hthere =>
        simp only [Bool.and_eq_true] at hthere
        exact ⟨Extends.refl tree, fun _ => hthere.2⟩
    · exact ⟨Extends.refl tree, by simp⟩

/-- Making nested directories changes nothing that is there, and the innermost one is there if
this succeeds. -/
theorem makeNested_spec (tree : FileTree) (paths : List Path) :
    Extends tree (tree.makeNested paths).1 ∧
      ((tree.makeNested paths).2 = .ok () →
        ∀ path, paths.head? = some path → (tree.makeNested paths).1.isDirectory path = true) := by
  induction paths with
  | nil => exact ⟨Extends.refl tree, by simp⟩
  | cons path above ih =>
      obtain ⟨hextends, hthere⟩ := tree.ensureDirectory_spec path
      simp only [List.head?_cons, Option.some.injEq, forall_eq']
      unfold makeNested
      split
      · split
        · next outer houter =>
            rw [houter] at ih
            obtain ⟨hextends', hthere'⟩ := outer.ensureDirectory_spec path
            exact ⟨ih.1.trans hextends', hthere'⟩
        · next hfailed =>
            refine ⟨ih.1, fun hok => ?_⟩
            exact (hfailed (tree.makeNested above).1 (Prod.ext rfl hok)).elim
      · exact ⟨hextends, hthere⟩

theorem extends_makeDirectories (tree : FileTree) (path : Path) :
    Extends tree (tree.makeDirectories path).1 :=
  (tree.makeNested_spec _).1

/-- A directory that was made need not be made again. -/
theorem makeDirectories_again (hmade : tree.makeDirectories path = (made, .ok ()))
    (hgrows : Grows made later) : later.makeDirectories path = (later, .ok ()) := by
  unfold makeDirectories at hmade ⊢
  cases hpaths : (ancestors path).filter
      fun above => !above.text.isEmpty && above.parent?.isSome with
  | nil => rfl
  | cons inner above =>
      rw [hpaths] at hmade
      have hthere := (tree.makeNested_spec (inner :: above)).2
      rw [hmade] at hthere
      have hdirectory := hgrows.isDirectory (hthere rfl inner rfl)
      rw [makeNested, ensureDirectory_of_isDirectory hdirectory]

end Directories

section AddedFiles

/-- Whether nothing but files was added to a tree. -/
structure AddsFiles (old new : FileTree) : Prop where
  grows : Grows old new
  added : ∀ location entry, new.entryAt? location = some entry →
    (∃ content, entry = .file content) ∨ old.entryAt? location = some entry

theorem AddsFiles.refl (tree : FileTree) : AddsFiles tree tree where
  grows := Grows.refl tree
  added := fun _ _ hentry => Or.inr hentry

variable {old new written : FileTree} {path : Path} {content : ByteArray}

/-- Writing a file adds nothing but a file. -/
theorem AddsFiles.afterWrite (hadds : AddsFiles old new)
    (hwrite : new.write path content = .ok written) : AddsFiles old written := by
  obtain ⟨location, hne, rfl, hgrows, _⟩ := write_spec hwrite
  refine ⟨hadds.grows.trans hgrows, ?_⟩
  intro other entry hentry
  by_cases heq : other = location
  · subst heq
    rw [entryAt?_put_self new _ hne] at hentry
    exact Or.inl ⟨content, (Option.some.inj hentry).symm⟩
  · rw [entryAt?_put_of_ne new _ heq] at hentry
    exact hadds.added other entry hentry

/-- Whether a file can be written at a place. -/
def IsWritable : Place → Prop
  | .taken _ (.file _) => True
  | .taken _ _ => False
  | .free _ _ => True

/-- A file can be written exactly at a writable place. -/
theorem exists_write_iff :
    (∃ written, old.write path content = .ok written) ↔
      ∃ place, old.place .write path = .ok place ∧ IsWritable place := by
  unfold write
  constructor
  · rintro ⟨written, hwrite⟩
    split at hwrite
    · simp at hwrite
    · next location before hplace => exact ⟨_, hplace, trivial⟩
    · simp at hwrite
    · next directory name hplace => exact ⟨_, hplace, trivial⟩
  · rintro ⟨place, hplace, hwritable⟩
    rw [hplace]
    cases place with
    | free directory name => exact ⟨_, rfl⟩
    | taken location entry =>
        cases entry with
        | file before => exact ⟨_, rfl⟩
        | directory => exact hwritable.elim
        | link target => exact hwritable.elim

/-- Files that were added are not what makes a place writable. -/
theorem Leads.withoutFiles (hadds : AddsFiles old new) {links : Nat} {slash : Bool}
    {directory : Location} {segments : List String} {place : Place}
    (hleads : Leads new .write links slash directory segments place)
    (hwritable : IsWritable place) :
    ∃ before, Leads old .write links slash directory segments before ∧ IsWritable before := by
  induction hleads with
  | arrive => exact hwritable.elim
  | stay _ ih =>
      obtain ⟨before, hbefore, hold⟩ := ih hwritable
      exact ⟨before, .stay hbefore, hold⟩
  | up _ ih =>
      obtain ⟨before, hbefore, hold⟩ := ih hwritable
      exact ⟨before, .up hbefore, hold⟩
  | @free _ _ parent segment hname hslash hentry =>
      refine ⟨.free parent segment, .free hname hslash ?_, trivial⟩
      cases hold : old.entryAt? (parent ++ [segment]) with
      | none => rfl
      | some entry =>
          obtain ⟨after, hafter, _⟩ := hadds.grows.kept _ entry hold
          simp [hentry] at hafter
  | @file _ slash parent segment found hname hlast hentry =>
      have hslash : slash = false := by simpa using hlast
      cases hold : old.entryAt? (parent ++ [segment]) with
      | none => exact ⟨.free parent segment, .free hname (by simp [hslash]) hold, trivial⟩
      | some entry =>
          cases entry with
          | file before => exact ⟨_, .file hname (Or.inl hslash) hold, trivial⟩
          | directory => simp [hadds.grows.directory hold] at hentry
          | link target => simp [hadds.grows.link hold] at hentry
  | enter hname hslash hentry _ ih =>
      obtain ⟨before, hbefore, hold⟩ := ih hwritable
      exact ⟨before, .enter hname hslash (by simpa using hadds.added _ _ hentry) hbefore, hold⟩
  | keepLink _ hpurpose => simp at hpurpose
  | throughLink hname hslash hlast hentry _ ih =>
      obtain ⟨before, hbefore, hold⟩ := ih hwritable
      exact ⟨before,
        .throughLink hname hslash hlast (by simpa using hadds.added _ _ hentry) hbefore, hold⟩

/-- Files that were added are not what lets a later file be written. -/
theorem AddsFiles.exists_write (hadds : AddsFiles old new)
    (hwrite : new.write path content = .ok written) :
    ∃ alone, old.write path content = .ok alone := by
  obtain ⟨place, hplace, hwritable⟩ := exists_write_iff.1 ⟨written, hwrite⟩
  obtain ⟨husable, hleads⟩ := place_eq_ok_iff.1 hplace
  obtain ⟨before, hbefore, hold⟩ := hleads.withoutFiles hadds hwritable
  have hstart : new.startOf path = old.startOf path := by
    simp [startOf, hadds.grows.working]
  rw [hstart] at hbefore
  exact exists_write_iff.2 ⟨before, place_eq_ok_iff.2 ⟨husable, hbefore⟩, hold⟩

end AddedFiles

section RealPaths

variable {old new : FileTree} {path : Path}

/-- The real path of an entry stays the same. -/
theorem Grows.canonical? (hgrows : Grows old new) {real : Path}
    (hreal : old.canonical? path = some real) : new.canonical? path = some real := by
  unfold FileTree.canonical? at hreal
  split at hreal
  · next location entry hplace =>
      obtain ⟨after, hafter, _⟩ := hgrows.place .look (by simp) (by simp) hplace
      unfold FileTree.canonical?
      rw [hafter]
      exact hreal
  · simp at hreal

end RealPaths

end FileTree
end HeaderBindings
