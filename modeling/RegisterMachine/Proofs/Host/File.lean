import RegisterMachine.Host.File

/-! # Reading what was written

A write that succeeds puts a file where there was a file or nothing. So every directory on the way stays
a directory (`node?_put_directory`), the walk along the path ends at the same place, and reading finds
the bytes that were written (`read_of_write`).
-/

namespace RegisterMachine.FileTree

/-- The tree with a file under these names, whatever was there before. -/
def put (tree : FileTree) (names : List String) (bytes : List UInt8) : FileTree :=
  ⟨(names, .file bytes) :: tree.nodes.filter fun entry => entry.1 != names⟩

/-- A write that succeeds finds a directory and a name in it that leads to no directory. -/
theorem write_eq_ok {tree tree' : FileTree} {path : String} {bytes : List UInt8}
    (written : tree.write path bytes = (.ok (), tree')) :
    ∃ directory name node, tree.locate path = .ok (directory, some name) ∧
      tree.lookup directory name = .ok node ∧ node ≠ some .directory ∧
      path.endsWith "/" = false ∧ tree' = tree.put (directory ++ [name]) bytes := by
  unfold write at written
  split at written
  · cases written
  · cases written
  · rename_i directory name located
    split at written
    · cases written
    · rename_i notSlash
      split at written
      · cases written
      · cases written
      · rename_i node notDirectory found
        cases written
        exact ⟨directory, name, node, located, found, notDirectory, Bool.eq_false_iff.2 notSlash, rfl⟩

variable {tree : FileTree} {names : List String} {bytes : List UInt8}

theorem node?_put_self (below : isAbove names = false) :
    (tree.put names bytes).node? names = some (.file bytes) := by
  simp [node?, below, put]

theorem node?_put_directory {directory : List String} (elsewhere : directory ≠ names)
    (found : tree.node? directory = some .directory) :
    (tree.put names bytes).node? directory = some .directory := by
  unfold node? at found ⊢
  split
  · rfl
  · rename_i below
    rw [if_neg below] at found
    have unlisted : ((tree.put names bytes).nodes.find? fun entry => entry.1 == directory) =
        tree.nodes.find? fun entry => entry.1 == directory := by
      have other : (names == directory) = false := beq_false_of_ne elsewhere.symm
      simp only [put, List.find?_cons, other, List.find?_filter]
      congr 1
      funext entry
      by_cases same : entry.1 = directory
      · simp [same, elsewhere]
      · simp [same]
    rw [unlisted]
    split at found
    · exact found
    · split at found
      · -- What lay below the directory is still there, or is the file that was put.
        rename_i inside
        obtain ⟨entry, member, below⟩ := List.any_eq_true.1 inside
        have stillInside : ((tree.put names bytes).nodes.any fun entry =>
            directory.isPrefixOf entry.1) = true := by
          refine List.any_eq_true.2 ?_
          by_cases replaced : entry.1 = names
          · exact ⟨_, List.mem_cons_self, by rwa [← replaced]⟩
          · refine ⟨entry, List.mem_cons_of_mem _ (List.mem_filter.2 ⟨member, ?_⟩), below⟩
            simpa using replaced
        rw [if_pos stillInside]
      · cases found

theorem enter_put (notDirectory : tree.node? names ≠ some .directory) {directory next : List String}
    {step : String} (entered : tree.enter directory step = .ok next) :
    (tree.put names bytes).enter directory step = .ok next := by
  unfold enter lookup at entered ⊢
  split
  · rename_i stays
    rwa [if_pos stays] at entered
  · rename_i goes
    rw [if_neg goes] at entered
    split
    · rename_i leaves
      rwa [if_pos leaves] at entered
    · rename_i inside
      rw [if_neg inside] at entered
      split at entered
      · cases entered
      · rename_i found
        split at found
        · cases found
        · rename_i fits
          have onTheWay : tree.node? (directory ++ [step]) = some .directory := Except.ok.inj found
          have elsewhere : directory ++ [step] ≠ names := fun same => notDirectory (same ▸ onTheWay)
          rw [if_neg fits, node?_put_directory elsewhere onTheWay]
          exact entered
      · cases entered
      · cases entered

theorem walk_put (notDirectory : tree.node? names ≠ some .directory) {directory : List String}
    {steps : List String} {place : List String × Option String}
    (walked : tree.walk directory steps = .ok place) :
    (tree.put names bytes).walk directory steps = .ok place := by
  -- The walk only goes through directories, and the place of the file was none.
  fun_induction tree.walk directory steps with
  | case1 directory => exact walked
  | case2 directory step => exact walked
  | case3 directory step next rest entered found inductionHypothesis =>
    rw [walk, enter_put notDirectory found]
    exact inductionHypothesis walked
  | case4 directory step next rest error found => cases walked

theorem read_of_write {tree tree' : FileTree} {path : String} {bytes : List UInt8}
    (written : tree.write path bytes = (.ok (), tree')) : tree'.read path = .ok bytes := by
  obtain ⟨directory, name, node, located, found, notDirectory, notSlash, rfl⟩ := write_eq_ok written
  unfold lookup at found
  split at found
  · cases found
  · rename_i fits
    have free : tree.node? (directory ++ [name]) ≠ some .directory := by
      rw [Except.ok.inj found]
      exact notDirectory
    have below : isAbove (directory ++ [name]) = false := by
      cases above : isAbove (directory ++ [name]) with
      | false => rfl
      | true => exact absurd (by rw [node?, if_pos above]) free
    have relocated : (tree.put (directory ++ [name]) bytes).locate path =
        .ok (directory, some name) := by
      unfold locate at located ⊢
      split at located
      · cases located
      · split at located
        · cases located
        · split at located
          · cases located
          · simp only [*, if_false]
            exact walk_put free located
    have stored : (tree.put (directory ++ [name]) bytes).lookup directory name =
        .ok (some (.file bytes)) := by
      rw [lookup, if_neg fits, node?_put_self below]
    rw [read, relocated]
    simp only [stored, notSlash]
    rfl

end RegisterMachine.FileTree
