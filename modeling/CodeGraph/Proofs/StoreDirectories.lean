import CodeGraph.Proofs.Effects
import CodeGraph.Site

/-!
# Directories that stay what they are

Opening a store makes directories and does nothing else to a tree of files: `FileTree.Grows` is what
every step keeps.  A path that was followed is followed to the same place in a tree that grew, so a
store that was opened is opened again, and what a session read it could read again.
-/

set_option autoImplicit false

namespace CodeGraph

open CommandLine (Command)

namespace FileTree

variable {tree later : FileTree}

/-- Every file is as it was, and no directory is gone. -/
structure Grows (tree later : FileTree) : Prop where
  files : later.files = tree.files
  directories : tree.directories <:+ later.directories

namespace Grows

theorem refl (tree : FileTree) : tree.Grows tree :=
  ⟨rfl, List.suffix_refl _⟩

theorem trans {between : FileTree} (first : tree.Grows between) (second : between.Grows later) :
    tree.Grows later :=
  ⟨second.files.trans first.files, first.directories.trans second.directories⟩

theorem hasDirectory (grows : tree.Grows later) {place : Place}
    (has : tree.hasDirectory place = true) : later.hasDirectory place = true := by
  simp only [FileTree.hasDirectory, grows.files, Bool.or_eq_true, List.any_eq_true] at has ⊢
  rcases has with (known | ⟨directory, member, inside⟩) | above
  · exact Or.inl (Or.inl known)
  · exact Or.inl (Or.inr ⟨directory, grows.directories.mem member, inside⟩)
  · exact Or.inr above

theorem targetAt? (grows : tree.Grows later) {place : Place} {target : Target}
    (found : tree.targetAt? place = some target) : later.targetAt? place = some target := by
  unfold FileTree.targetAt? at found ⊢
  rw [grows.files]
  cases isFile : tree.files.lookup place with
  | some content => rwa [isFile] at found
  | none =>
      rw [isFile] at found
      obtain ⟨has, isTarget⟩ := Option.ite_none_right_eq_some.mp found
      simp only [grows.hasDirectory has, if_true, isTarget]

/-- A path leads where it led. -/
theorem follow (grows : tree.Grows later) {parts : List String} {place : Place} {target : Target}
    (found : tree.follow place parts = .ok target) : later.follow place parts = .ok target := by
  induction parts generalizing place with
  | nil => exact found
  | cons part others inductionHypothesis =>
      unfold FileTree.follow at found ⊢
      split at found
      case isTrue => cases found
      case isFalse short =>
        rw [if_neg short]
        cases isTarget : tree.targetAt? (place.step part) with
        | none =>
            rw [isTarget] at found
            cases found
        | some inner =>
            rw [isTarget] at found
            rw [grows.targetAt? isTarget]
            cases inner with
            | file => exact found
            | directory => exact inductionHypothesis found

theorem find (grows : tree.Grows later) {path : String} {target : Target}
    (found : tree.find path = .ok target) : later.find path = .ok target := by
  unfold FileTree.find at found ⊢
  cases checked : checkPath path with
  | error fault =>
      rw [checked] at found
      cases found
  | ok =>
      rw [checked] at found
      exact grows.follow found

theorem read (grows : tree.Grows later) {path : String} {content : ByteArray}
    (isRead : tree.read path = .ok content) : later.read path = .ok content := by
  unfold FileTree.read at isRead ⊢
  cases found : tree.find path with
  | error fault =>
      rw [found] at isRead
      cases isRead
  | ok target =>
      rw [found] at isRead
      rw [grows.find found]
      exact isRead

end Grows

/-! ## Making directories -/

def adding (tree : FileTree) (place : Place) : FileTree :=
  { tree with directories := place :: tree.directories }

theorem grows_adding (tree : FileTree) (place : Place) : tree.Grows (tree.adding place) :=
  ⟨rfl, List.suffix_cons place tree.directories⟩

theorem targetAt?_adding {place : Place} (missing : tree.targetAt? place = none) :
    (tree.adding place).targetAt? place = some .directory := by
  have noFile : tree.files.lookup place = none := by
    unfold targetAt? at missing
    cases isFile : tree.files.lookup place with
    | none => rfl
    | some content =>
        rw [isFile] at missing
        cases missing
  simp [targetAt?, adding, noFile, hasDirectory]

theorem grows_extend (tree : FileTree) (hasMade : Bool) (place : Place) (parts : List String) :
    tree.Grows (tree.extend hasMade place parts).2 := by
  fun_induction extend tree hasMade place parts with
  | case1 tree => exact .refl tree
  | case2 tree => exact .refl tree
  | case3 tree hasMade place part later short isDirectory inductionHypothesis =>
      exact inductionHypothesis
  | case4 tree => exact .refl tree
  | case5 tree hasMade place part later short missing inductionHypothesis =>
      exact (tree.grows_adding (place.step part)).trans inductionHypothesis

/-- Directories that were made can be followed. -/
theorem follow_extend {hasMade : Bool} {place : Place} {parts : List String}
    (made : (tree.extend hasMade place parts).1 = .ok ()) :
    (tree.extend hasMade place parts).2.follow place parts = .ok .directory := by
  fun_induction extend tree hasMade place parts with
  | case1 tree => rfl
  | case2 tree => cases made
  | case3 tree hasMade place part later short isDirectory inductionHypothesis =>
      have kept := (tree.grows_extend hasMade (place.step part) later).targetAt? isDirectory
      rw [follow, if_neg short, kept]
      exact inductionHypothesis made
  | case4 tree => cases made
  | case5 tree hasMade place part later short missing inductionHypothesis =>
      have kept := ((tree.adding (place.step part)).grows_extend true (place.step part)
        later).targetAt? (targetAt?_adding missing)
      unfold adding at kept
      rw [follow, if_neg short, kept]
      exact inductionHypothesis made

theorem grows_makeDirectory (tree : FileTree) (path : String) :
    tree.Grows (tree.makeDirectory path).2 := by
  unfold makeDirectory
  cases checkPath path with
  | error fault => exact .refl tree
  | ok => exact tree.grows_extend false _ _

theorem find_makeDirectory {path : String} (made : (tree.makeDirectory path).1 = .ok ()) :
    (tree.makeDirectory path).2.find path = .ok .directory := by
  unfold makeDirectory find at *
  cases checked : checkPath path with
  | error fault =>
      rw [checked] at made
      cases made
  | ok =>
      rw [checked] at made
      exact follow_extend made

/-! ## Opening a store -/

open StoreDirectory

theorem grows_makeBlobs (tree : FileTree) (directory : String) :
    tree.Grows (tree.makeBlobs directory).2 := by
  unfold makeBlobs
  split
  · exact .refl tree
  · exact tree.grows_makeDirectory _

theorem makeBlobs_again {directory : String} (made : (tree.makeBlobs directory).1 = .ok ()) :
    (tree.makeBlobs directory).2.makeBlobs directory = (.ok (), (tree.makeBlobs directory).2) := by
  have found : ∃ target,
      (tree.makeBlobs directory).2.find (joinPath directory blobs) = .ok target := by
    unfold makeBlobs at made ⊢
    cases isThere : tree.find (joinPath directory blobs) with
    | ok target => exact ⟨target, isThere⟩
    | error fault =>
        rw [isThere] at made
        exact ⟨.directory, find_makeDirectory made⟩
  obtain ⟨target, isThere⟩ := found
  rw [makeBlobs, isThere]

theorem grows_openStore (tree : FileTree) (home directory : String) :
    tree.Grows (tree.openStore home directory).2 := by
  have grown := tree.grows_makeBlobs directory
  unfold openStore
  cases made : tree.makeBlobs directory with
  | mk answer later =>
      rw [made] at grown
      cases answer <;> exact grown

/-- What is looked at was looked at in the tree that is left, so it is found again. -/
theorem openStore_again {home directory : String}
    (opened : (tree.openStore home directory).1 = .ok ()) :
    let later := (tree.openStore home directory).2
    later.openStore home directory = (.ok (), later) := by
  unfold openStore at opened ⊢
  cases made : tree.makeBlobs directory with
  | mk answer later =>
      rw [made] at opened
      cases answer with
      | error fault => cases opened
      | ok =>
          have again := makeBlobs_again (congrArg Prod.fst made)
          rw [made] at again
          simp only [again]
          exact Prod.ext opened rfl

theorem checkSettings_of_openStore {home directory : String}
    (opened : (tree.openStore home directory).1 = .ok ()) :
    (tree.openStore home directory).2.checkSettings directory = .ok () := by
  unfold openStore at opened ⊢
  cases made : tree.makeBlobs directory with
  | mk answer later =>
      rw [made] at opened
      cases answer with
      | error fault => cases opened
      | ok =>
          obtain ⟨_, checked, _⟩ := bind_eq_ok_iff.mp opened
          exact checked

end FileTree

/-! ## Settings -/

theorem StoreSettings.check_eq_ok_iff {stored wanted : StoreSettings} :
    stored.check wanted = .ok () ↔ stored = wanted := by
  cases stored with
  | mk size compressed version =>
      cases wanted with
      | mk wantedSize wantedCompressed wantedVersion =>
          simp only [check, mk.injEq]
          split_ifs with otherCompression otherSize otherVersion
          · exact iff_of_false nofun fun same => otherCompression same.2.1
          · exact iff_of_false nofun fun same => otherSize same.1
          · exact iff_of_false nofun fun same => otherVersion same.2.2
          · exact iff_of_true rfl
              ⟨not_not.mp otherSize, not_not.mp otherCompression, not_not.mp otherVersion⟩

theorem FileTree.settings_of_checkSettings {tree : FileTree} {directory : String}
    (checked : tree.checkSettings directory = .ok ()) {content : ByteArray}
    (isRead : tree.read (joinPath directory StoreDirectory.settings) = .ok content)
    (written : StoreDirectory.maxBlankLength < content.size) :
    StoreSettings.ofContent content = .ok {} := by
  rw [checkSettings, isRead] at checked
  dsimp only at checked
  rw [if_neg (Nat.not_le_of_lt written)] at checked
  obtain ⟨stored, isStored, same⟩ := bind_eq_ok_iff.mp checked
  rw [isStored, StoreSettings.check_eq_ok_iff.mp same]

/-- Opening a store only makes directories.  A store that was opened is opened again, and nothing is
made the second time; it has no settings of its own, or those of a new store. -/
theorem store_opens_again (tree : FileTree) (home directory : String) :
    let later := (tree.openStore home directory).2
    tree.Grows later ∧
    ((tree.openStore home directory).1 = .ok () →
      later.openStore home directory = (.ok (), later) ∧
      ∀ content, later.read (joinPath directory StoreDirectory.settings) = .ok content →
        StoreDirectory.maxBlankLength < content.size →
          StoreSettings.ofContent content = .ok {}) := by
  intro later
  refine ⟨tree.grows_openStore home directory, fun opened => ⟨FileTree.openStore_again opened, ?_⟩⟩
  intro content isRead written
  exact FileTree.settings_of_checkSettings (FileTree.checkSettings_of_openStore opened) isRead
    written

/-! ## Sessions -/

namespace Site

variable {ν : Type}

theorem surroundings_keeps (start site : Site ν) (network : Http.Network ν) :
    (site.surroundings network).Keeps (fun _ => True) fun later =>
      later.home = start.home ∧ start.files.Grows later.files where
  opening path outside _ holds :=
    ⟨holds.1, holds.2.trans (outside.files.grows_openStore outside.home path)⟩
  exchange _ _ _ holds := holds
  writing _ _ _ _ holds := holds

/-- Whatever the command is and servers answer: a session leaves every file as it was and removes no
directory.  So an input that it loaded could be loaded again.  The documents of its stores are not
among the files, since a world holds stores beside them. -/
theorem session_keeps_files (network : Http.Network ν) (command : Command)
    (world : World (Site ν)) :
    let surroundings := world.outside.surroundings network
    let later := (surroundings.run command world).world.outside
    world.outside.files.Grows later.files ∧
    (∀ path content, world.outside.files.read path = .ok content →
      later.files.read path = .ok content) ∧
    ∀ entities, surroundings.load command.input = .ok entities →
      (later.surroundings network).load command.input = .ok entities := by
  intro surroundings later
  have grown : world.outside.files.Grows later.files :=
    ((world.outside.surroundings_keeps world.outside network).run (fun _ => trivial) command
      ⟨rfl, .refl _⟩).2
  refine ⟨grown, fun path content isRead => grown.read isRead, ?_⟩
  intro entities loaded
  simp only [surroundings, Site.surroundings, EntityGraph.load] at loaded ⊢
  cases isRead : world.outside.files.read command.input with
  | error fault =>
      rw [isRead] at loaded
      cases loaded
  | ok content =>
      rw [isRead] at loaded
      rw [grown.read isRead]
      exact loaded

end Site

end CodeGraph
