import DeclSchema.FileConversion
import DeclSchema.Proofs.Conversion.Endings
import DeclSchema.Proofs.Text.LineEnds

/-!
What a conversion from file to file leaves behind. Directories are made only where there is
nothing and only on the way to the output, and the output is stored in one step at the end; so
where the system fails the writing, no file that was there is touched. A name that the system does
not take leaves the directories that were made for it, and a schema that has no bytes leaves an
empty file.
-/

namespace DeclSchema

open Files

namespace Files.Tree

/-! Looking up after putting. -/

theorem lookup_put_self {place : List String} (below : place ≠ []) (tree : Tree) (entry : Entry) :
    (tree.put place entry).lookup place = some entry := by
  rw [lookup, if_neg (by simpa using below), put]
  exact Association.lookup_put_self place entry tree.entries

theorem lookup_put_other {place other : List String} (different : other ≠ place) (tree : Tree)
    (entry : Entry) : (tree.put place entry).lookup other = tree.lookup other := by
  have same := Association.lookup_put_of_ne different entry tree.entries
  unfold lookup put
  rw [same]

/-! Walking. -/

theorem enter_some {tree : Tree} {directory next : List String} {name : String}
    (entered : tree.enter directory name = .ok next) :
    (name = ".." ∧ next = directory.dropLast) ∨
      (name ≠ ".." ∧ next = directory ++ [name] ∧ tree.lookup next = some .directory) := by
  unfold enter at entered
  split at entered
  · rename_i up
    cases entered
    exact .inl ⟨up, rfl⟩
  · rename_i down
    split at entered
    · rename_i found
      cases entered
      exact .inr ⟨down, rfl, found⟩
    · cases entered
    · cases entered

theorem enter_down {tree : Tree} {directory : List String} {name : String} (down : name ≠ "..")
    (found : tree.lookup (directory ++ [name]) = some .directory) :
    tree.enter directory name = .ok (directory ++ [name]) := by
  rw [enter, if_neg down, found]

-- Where the directories of a tree are kept, every walk through it can be made again.
theorem walk_kept {before after : Tree} (here : after.here = before.here)
    (kept : ∀ place, before.lookup place = some .directory → after.lookup place = some .directory)
    {start : Start} {segments place : List String} (walked : before.walk start segments = .ok place) :
    after.walk start segments = .ok place := by
  have origin : after.origin start = before.origin start := by
    cases start <;> simp [Tree.origin, here]
  unfold walk at walked ⊢
  rw [origin]
  generalize before.origin start = directory at walked
  induction segments generalizing directory with
  | nil => exact walked
  | cons name rest ih =>
    rw [List.foldlM_cons] at walked ⊢
    cases entered : before.enter directory name with
    | error cause =>
      rw [entered] at walked
      cases walked
    | ok next =>
      rw [entered] at walked
      have again : after.enter directory name = .ok next := by
        rcases enter_some entered with ⟨up, rfl⟩ | ⟨down, rfl, found⟩
        · rw [enter, if_pos up]
        · exact enter_down down (kept _ found)
      rw [again]
      exact ih next walked

theorem locate_some {tree : Tree} {path : Path} {place : List String}
    (located : tree.locate path = .ok (some place)) :
    ∃ name directory, path.segments.getLast? = some name ∧ name ≠ ".." ∧
      tree.walk path.start path.segments.dropLast = .ok directory ∧ place = directory ++ [name] := by
  unfold locate at located
  cases last : path.segments.getLast? with
  | none =>
    rw [last] at located
    cases located
  | some name =>
    rw [last] at located
    cases walked : tree.walk path.start path.segments.dropLast with
    | error cause =>
      simp only [walked] at located
      cases located
    | ok directory =>
      simp only [walked] at located
      change (if name = ".." then pure none else pure (some (directory ++ [name]))) = _ at located
      split at located
      · cases located
      · rename_i down
        cases located
        exact ⟨name, directory, rfl, down, rfl, rfl⟩

theorem locate_kept {before after : Tree} (here : after.here = before.here)
    (kept : ∀ place, before.lookup place = some .directory → after.lookup place = some .directory)
    {path : Path} {place : List String} (located : before.locate path = .ok (some place)) :
    after.locate path = .ok (some place) := by
  obtain ⟨name, directory, last, down, walked, rfl⟩ := locate_some located
  have again := walk_kept here kept walked
  unfold locate
  rw [last]
  simp only [again]
  change (if name = ".." then pure none else pure (some (directory ++ [name]))) = _
  rw [if_neg down]
  rfl

/-! Making directories. -/

-- The second tree has all that the first one has, and beyond it only directories that some first
-- segments of the way lead to.
structure Grows (start : Start) (way : List String) (before after : Tree) : Prop where
  here : after.here = before.here
  kept : ∀ place entry, before.lookup place = some entry → after.lookup place = some entry
  made : ∀ place entry, before.lookup place = none → after.lookup place = some entry →
    entry = .directory ∧ ∃ above, above <+: way ∧ after.walk start above = .ok place

theorem grows_refl (start : Start) (way : List String) (tree : Tree) : Grows start way tree tree := by
  refine ⟨rfl, fun _ _ found => found, ?_⟩
  intro place entry missing found
  rw [missing] at found
  cases found

theorem grows_trans {start : Start} {way : List String} {before middle after : Tree}
    (first : Grows start way before middle) (second : Grows start way middle after) :
    Grows start way before after := by
  refine ⟨second.here.trans first.here, ?_, ?_⟩
  · intro place entry found
    exact second.kept place entry (first.kept place entry found)
  · intro place entry missing found
    cases midway : middle.lookup place with
    | none => exact second.made place entry midway found
    | some known =>
      have same := second.kept place known midway
      rw [found] at same
      cases same
      obtain ⟨directory, above, before, walked⟩ := first.made place entry missing midway
      exact ⟨directory, above, before,
        walk_kept second.here (fun other known => second.kept other _ known) walked⟩

theorem grows_further {start : Start} {way longer : List String} {before after : Tree}
    (further : way <+: longer) (grows : Grows start way before after) :
    Grows start longer before after := by
  refine ⟨grows.here, grows.kept, ?_⟩
  intro place entry missing found
  obtain ⟨directory, above, short, walked⟩ := grows.made place entry missing found
  exact ⟨directory, above, short.trans further, walked⟩

theorem makeDirectory_some {tree after : Tree} {path : Path}
    (made : tree.makeDirectory path = .ok after) :
    ∃ place, tree.locate path = .ok (some place) ∧ tree.lookup place = none ∧
      after = tree.put place .directory := by
  unfold makeDirectory at made
  cases located : tree.locate path with
  | error cause =>
    rw [located] at made
    cases made
  | ok found =>
    cases found with
    | none =>
      rw [located] at made
      cases made
    | some place =>
      cases free : tree.lookup place with
      | some entry =>
        simp only [located, Except.bind, bind, free] at made
        cases made
      | none =>
        simp only [located, Except.bind, bind, free] at made
        cases made
        exact ⟨place, rfl, free, rfl⟩

theorem makeDirectory_grows {tree after : Tree} {path : Path}
    (made : tree.makeDirectory path = .ok after) : Grows path.start path.segments tree after := by
  obtain ⟨place, located, free, rfl⟩ := makeDirectory_some made
  obtain ⟨name, directory, last, down, walked, rfl⟩ := locate_some located
  have own := lookup_put_self (by simp : directory ++ [name] ≠ []) tree .directory
  have kept : ∀ other entry, tree.lookup other = some entry →
      (tree.put (directory ++ [name]) .directory).lookup other = some entry := by
    intro other entry found
    have different : other ≠ directory ++ [name] := by
      rintro rfl
      rw [free] at found
      cases found
    rw [lookup_put_other different, found]
  refine ⟨rfl, kept, ?_⟩
  intro other entry missing found
  by_cases same : other = directory ++ [name]
  · subst same
    rw [own] at found
    cases found
    refine ⟨rfl, path.segments, List.prefix_rfl, ?_⟩
    have again := walk_kept (by rfl) (fun place found => kept place _ found) walked
    obtain ⟨front, shape⟩ := List.getLast?_eq_some_iff.mp last
    rw [shape, List.dropLast_concat] at again
    rw [shape]
    unfold walk at again ⊢
    rw [List.foldlM_append, again]
    change (List.foldlM _ directory [name] : Except Cause _) = _
    rw [List.foldlM_cons, enter_down down own]
    rfl
  · rw [lookup_put_other same, missing] at found
    cases found

theorem ensureDirectory_grows {tree after : Tree} {path : Path}
    (ensured : tree.ensureDirectory path = .ok after) : Grows path.start path.segments tree after := by
  unfold ensureDirectory at ensured
  split at ensured
  · rename_i made
    cases ensured
    exact makeDirectory_grows made
  · split at ensured
    · cases ensured
      exact grows_refl _ _ _
    · cases ensured

-- Also where the last directory cannot be made.
theorem ensureAll_grows (tree : Tree) (start : Start) (names : List String) :
    Grows start names.reverse tree (tree.ensureAll start names).1 := by
  induction names with
  | nil =>
    unfold ensureAll
    split
    · rename_i ensured
      exact ensureDirectory_grows ensured
    · exact grows_refl _ _ _
  | cons name above ih =>
    have longer : above.reverse <+: (name :: above).reverse := by simp
    have upper := grows_further longer ih
    rw [ensureAll]
    split
    · rename_i ensured
      exact ensureDirectory_grows ensured
    · split
      · split
        · rename_i after _ made
          rw [made] at upper
          exact upper
        · rename_i after made
          rw [made] at upper
          split
          · rename_i ensured
            exact grows_trans upper (ensureDirectory_grows ensured)
          · exact upper
      · exact grows_refl _ _ _

/-! Writing. -/

theorem store_some {tree after : Tree} {path : Path} {bytes : List UInt8}
    (stored : tree.store path bytes = .ok after) :
    ∃ place, tree.locate path = .ok (some place) ∧ tree.lookup place ≠ some .directory ∧
      after = tree.put place (.file bytes) := by
  unfold store at stored
  split at stored
  · cases stored
  · cases stored
  · rename_i place located
    split at stored
    · cases stored
    · rename_i other
      cases stored
      exact ⟨place, located, other, rfl⟩

-- The file holds the bytes. Everything else that was there is as it was, and all else that is
-- new are directories above the file.
structure Written (before after : Tree) (path : Path) (bytes : List UInt8) : Prop where
  read : after.read path = .ok bytes
  others : ∃ place, after.locate path = .ok (some place) ∧
    (∀ other entry, other ≠ place → before.lookup other = some entry →
      after.lookup other = some entry) ∧
    ∀ other entry, other ≠ place → before.lookup other = none → after.lookup other = some entry →
      entry = .directory ∧
        ∃ above, above <+: path.parent.segments ∧ after.walk path.start above = .ok other

theorem find_located {tree : Tree} {path : Path} {place : List String} {entry : Entry}
    (located : tree.locate path = .ok (some place)) (found : tree.lookup place = some entry) :
    tree.find path = .ok entry := by
  simp only [find, located, Except.bind, bind, found]
  rfl

theorem store_written {before tree after : Tree} {path : Path} {bytes : List UInt8}
    (grows : Grows path.start path.parent.segments before tree)
    (stored : tree.store path bytes = .ok after) : Written before after path bytes := by
  obtain ⟨place, located, free, rfl⟩ := store_some stored
  have below : place ≠ [] := by
    obtain ⟨name, directory, _, _, _, rfl⟩ := locate_some located
    simp
  have directories : ∀ other, tree.lookup other = some .directory →
      (tree.put place (.file bytes)).lookup other = some .directory := by
    intro other found
    have different : other ≠ place := by
      rintro rfl
      exact free found
    rw [lookup_put_other different, found]
  have again := locate_kept (by rfl) directories located
  refine ⟨?_, place, again, ?_, ?_⟩
  · rw [read, find_located again (lookup_put_self below tree _)]
  · intro other entry different found
    rw [lookup_put_other different]
    exact grows.kept other entry found
  · intro other entry different missing found
    rw [lookup_put_other different] at found
    obtain ⟨directory, above, before, walked⟩ := grows.made other entry missing found
    exact ⟨directory, above, before, walk_kept (by rfl) directories walked⟩

theorem ensureParents_grows (tree : Tree) (path : Path) :
    Grows path.start path.parent.segments tree (tree.ensureParents path).1 := by
  have grows := ensureAll_grows tree path.start path.parent.segments.reverse
  rwa [List.reverse_reverse] at grows

theorem write_done {tree after : Tree} {path : Path} {bytes : List UInt8}
    (done : tree.write path bytes = (after, none)) : Written tree after path bytes := by
  have grows := ensureParents_grows tree path
  unfold write at done
  split at done
  · cases done
  · rename_i middle ensured
    rw [ensured] at grows
    split at done
    · rename_i stored
      cases done
      exact store_written grows stored
    · cases done

theorem write_failed {tree after : Tree} {path : Path} {bytes : List UInt8} {fault : Fault}
    (failed : tree.write path bytes = (after, some fault)) :
    Grows path.start path.parent.segments tree after := by
  have grows := ensureParents_grows tree path
  unfold write at failed
  split at failed
  · rename_i made
    cases failed
    rw [made] at grows
    exact grows
  · rename_i middle ensured
    rw [ensured] at grows
    split at failed
    · cases failed
    · cases failed
      exact grows

end Files.Tree

/-! Saving a schema. -/

theorem makeParents_cases (tree : Tree) (path : Path) :
    Tree.Grows path.start path.parent.segments tree (makeParents tree path).1 ∧
      ((makeParents tree path).2 = none ∨
        ∃ reason, (makeParents tree path).2 = some (.writing path.display reason)) := by
  have told : (makeParents tree path).2 =
      (tree.ensureParents path).2.map (writingFailure path) := rfl
  refine ⟨Tree.ensureParents_grows tree path, ?_⟩
  rw [told]
  cases (tree.ensureParents path).2 with
  | none => exact .inl rfl
  | some fault => exact .inr ⟨_, rfl⟩

theorem writeSchemaFile_cases (tree : Tree) (path : Path) (text : String) :
    (∃ reason, (writeSchemaFile tree path text).2 = some (.writing path.display reason) ∧
      Tree.Grows path.start path.parent.segments tree (writeSchemaFile tree path text).1) ∨
    ((writeSchemaFile tree path text).2 = none ∧
      tree.Written (writeSchemaFile tree path text).1 path (Text.encode text)) := by
  unfold writeSchemaFile
  cases attempt : tree.write path (Text.encode text) with
  | mk after fault =>
    cases fault with
    | some fault => exact .inl ⟨_, rfl, Tree.write_failed attempt⟩
    | none => exact .inr ⟨rfl, Tree.write_done attempt⟩

-- How the files look when a schema has been saved, and with what the saving stopped.
inductive Saved (tree : Tree) (path : Path) (text : Points) : Tree → Option Stop → Prop
  | written {after : Tree} {encodable : String} (named : path.holdsNull = false)
    (whole : text = Points.of encodable)
    (written : tree.Written after path (Text.encode encodable)) : Saved tree path text after none
  | failed {after : Tree} {reason : String}
    (grows : Tree.Grows path.start path.parent.segments tree after) :
    Saved tree path text after (some (.failure (.writing path.display reason)))
  | nameless {after : Tree} (unnamed : path.holdsNull = true)
    (grows : Tree.Grows path.start path.parent.segments tree after) :
    Saved tree path text after (some (.fault .nullInName))
  | emptied {after : Tree} (named : path.holdsNull = false) (halved : text.string? = none)
    (written : tree.Written after path []) : Saved tree path text after (some (.fault .unencodable))

theorem parent_holdsNull {path : Path} (above : path.parent.holdsNull = true) :
    path.holdsNull = true := by
  obtain ⟨name, member, null⟩ := List.any_eq_true.mp above
  exact List.any_eq_true.mpr ⟨name, List.dropLast_subset _ member, null⟩

theorem saveSchema_saved (tree : Tree) (path : Path) (text : Points) :
    Saved tree path text (saveSchema tree path text).1 (saveSchema tree path text).2 := by
  unfold saveSchema
  split
  next above => exact .nameless (parent_holdsNull above) (Tree.grows_refl _ _ _)
  next =>
    split
    next unnamed =>
      obtain ⟨grows, done | ⟨reason, failed⟩⟩ := makeParents_cases tree path
      · rw [Stop.after, done]
        exact .nameless unnamed grows
      · rw [Stop.after, failed]
        exact .failed grows
    next named =>
      have named := Bool.eq_false_iff.mpr named
      split
      next encodable whole =>
        rcases writeSchemaFile_cases tree path encodable with ⟨reason, failed, grows⟩ | ⟨done, written⟩
        · rw [Stop.after, failed]
          exact .failed grows
        · rw [Stop.after, done]
          exact .written named (Points.string_some.mp whole) written
      next halved =>
        rcases writeSchemaFile_cases tree path "" with ⟨reason, failed, grows⟩ | ⟨done, written⟩
        · rw [Stop.after, failed]
          exact .failed grows
        · rw [Stop.after, done]
          exact .emptied named halved written

def Stop.isWriting : Stop → Bool
  | .failure (.writing _ _) => true
  | _ => false

section Saved

variable {tree after : Tree} {path : Path} {text : Points}

theorem saved_done (saved : Saved tree path text after none) :
    ∃ encodable, text = Points.of encodable ∧ tree.Written after path (Text.encode encodable) := by
  cases saved with
  | written _ whole written => exact ⟨_, whole, written⟩

theorem saved_writing {stop : Stop} (saved : Saved tree path text after (some stop))
    (writing : stop.isWriting = true) :
    Tree.Grows path.start path.parent.segments tree after := by
  cases saved with
  | failed grows => exact grows
  | nameless => cases writing
  | emptied => cases writing

theorem saved_otherwise {stop : Stop} (saved : Saved tree path text after (some stop))
    (other : stop.isWriting = false) : path.holdsNull = true ∨ text.string? = none := by
  cases saved with
  | failed => cases other
  | nameless unnamed => exact .inl unnamed
  | emptied _ halved => exact .inr halved

theorem saved_unnamed {stop : Option Stop} (saved : Saved tree path text after stop)
    (unnamed : path.holdsNull = true) :
    stop ≠ none ∧ Tree.Grows path.start path.parent.segments tree after := by
  cases saved with
  | written named => rw [unnamed] at named; cases named
  | failed grows => exact ⟨Option.some_ne_none _, grows⟩
  | nameless _ grows => exact ⟨Option.some_ne_none _, grows⟩
  | emptied named => rw [unnamed] at named; cases named

theorem saved_halved {stop : Option Stop} (saved : Saved tree path text after stop)
    (named : path.holdsNull = false) (halved : text.string? = none) :
    (∃ reason, stop = some (.failure (.writing path.display reason)) ∧
      Tree.Grows path.start path.parent.segments tree after) ∨
    (stop = some (.fault .unencodable) ∧ tree.Written after path []) := by
  cases saved with
  | written _ whole => rw [Points.string_some.mpr whole] at halved; cases halved
  | failed grows => exact .inl ⟨_, rfl, grows⟩
  | nameless unnamed => rw [named] at unnamed; cases unnamed
  | emptied _ _ written => exact .inr ⟨rfl, written⟩

end Saved

/-! Conversion from file to file. -/

section Conversion

variable {finish : Finish} {input : Path} {tree : Tree}

theorem loadSource_some {source : String} (loaded : loadSource tree input = .ok source) :
    ∃ bytes text, tree.read input = .ok bytes ∧ Text.decode bytes = .ok text ∧
      source = String.ofList (Text.unifyLineEnds text) := by
  unfold loadSource readSourceFile at loaded
  split at loaded
  · cases loaded
  · split at loaded
    · cases loaded
    · rename_i bytes found
      split at loaded
      · cases loaded
      · rename_i text decoded
        cases loaded
        exact ⟨bytes, text, found, decoded, rfl⟩

-- The source is the text of the file with its line ends unified, and nothing else is looked at.
theorem convertTree_some {conversion : Conversion}
    (converted : (convertTree finish input tree).outcome = .ok conversion) :
    ∃ bytes text lines, tree.read input = .ok bytes ∧ Text.decode bytes = .ok text ∧
      Text.Lines text lines ∧
      (convert finish (String.ofList (['\n'].intercalate lines))).outcome = .ok conversion := by
  rw [convertTree, Traced.bind_outcome] at converted
  cases loaded : loadSource tree input with
  | error stop =>
    rw [loaded] at converted
    cases converted
  | ok source =>
    rw [loaded] at converted
    obtain ⟨bytes, text, found, decoded, rfl⟩ := loadSource_some loaded
    obtain ⟨lines, falls⟩ := Text.lines_exist text
    rw [Text.unifyLineEnds_lines falls] at converted
    exact ⟨bytes, text, lines, found, decoded, falls, converted⟩

-- How a conversion with an output ends, by how the conversion itself did: it leaves what is there
-- where it gives no schema, and else what the saving of its schema leaves.
inductive Settled (tree : Tree) (path : Path) :
    Except Stop Conversion → Tree → Except Stop Conversion → Prop where
  | stopped (stop : Stop) : Settled tree path (.error stop) tree (.error stop)
  | failed {conversion : Conversion} {after : Tree} {stop : Stop}
      (saved : Saved tree path conversion.sdl after (some stop)) :
      Settled tree path (.ok conversion) after (.error stop)
  | done {conversion : Conversion} {after : Tree}
      (saved : Saved tree path conversion.sdl after none) :
      Settled tree path (.ok conversion) after (.ok conversion)

theorem convertFile_settled (destination : Destination) :
    let result := convertFile finish input (some destination) tree
    Settled tree destination.path (convertTree finish input tree).outcome result.1
      result.2.outcome := by
  intro result
  unfold result convertFile
  dsimp only
  cases run : (convertTree finish input tree).outcome with
  | error stop =>
    rw [run]
    exact .stopped stop
  | ok conversion =>
    dsimp only
    have saved := saveSchema_saved tree destination.path conversion.sdl
    generalize saveSchema tree destination.path conversion.sdl = attempt at saved ⊢
    obtain ⟨after, stop⟩ := attempt
    rw [Traced.bind_outcome, run]
    cases stop with
    | some stop => exact .failed saved
    | none => exact .done saved

section Settled

variable {path : Path} {run outcome : Except Stop Conversion} {after : Tree}
  {conversion : Conversion} {stop : Stop}

theorem settled_unchanged (settled : Settled tree path run after (.error stop))
    (other : stop.isWriting = false) (named : path.holdsNull = false)
    (whole : ∀ conversion, run = .ok conversion → conversion.sdl.string? ≠ none) : after = tree := by
  cases settled with
  | stopped => rfl
  | failed saved =>
    rcases saved_otherwise saved other with unnamed | halved
    · rw [named] at unnamed
      cases unnamed
    · exact absurd halved (whole _ rfl)

theorem settled_kept (settled : Settled tree path run after (.error stop))
    (writing : stop.isWriting = true) (place : List String) (entry : Entry)
    (found : tree.lookup place = some entry) : after.lookup place = some entry := by
  cases settled with
  | stopped => exact found
  | failed saved => exact (saved_writing saved writing).kept place entry found

theorem settled_done (settled : Settled tree path run after (.ok conversion)) :
    run = .ok conversion ∧ ∃ encodable, conversion.sdl = Points.of encodable ∧
      tree.Written after path (Text.encode encodable) := by
  cases settled with
  | done saved => exact ⟨rfl, saved_done saved⟩

theorem settled_unnamed (settled : Settled tree path run after outcome)
    (unnamed : path.holdsNull = true) : (∀ conversion, outcome ≠ .ok conversion) ∧
      Tree.Grows path.start path.parent.segments tree after := by
  cases settled with
  | stopped => exact ⟨(fun _ done => nomatch done), Tree.grows_refl _ _ _⟩
  | failed saved => exact ⟨(fun _ done => nomatch done), (saved_unnamed saved unnamed).2⟩
  | done saved => exact absurd rfl (saved_unnamed saved unnamed).1

theorem settled_halved (settled : Settled tree path (.ok conversion) after outcome)
    (named : path.holdsNull = false) (halved : conversion.sdl.string? = none) :
    (∃ reason, outcome = .error (.failure (.writing path.display reason)) ∧
      Tree.Grows path.start path.parent.segments tree after) ∨
    (outcome = .error (.fault .unencodable) ∧ tree.Written after path []) := by
  cases settled with
  | failed saved =>
    rcases saved_halved saved named halved with ⟨reason, told, grows⟩ | ⟨told, emptied⟩
    · cases told
      exact .inl ⟨reason, rfl, grows⟩
    · cases told
      exact .inr ⟨rfl, emptied⟩
  | done saved => rcases saved_halved saved named halved with ⟨_, told, _⟩ | ⟨told, _⟩ <;> cases told

end Settled

end Conversion

-- Without an output the files stay as they are. With an output that has a name, and a schema that
-- has bytes, nothing but a failure to write changes any of them, and such a failure keeps all that
-- was there. A name that the system does not take can leave directories behind, and a schema that
-- has no bytes leaves an empty file.
theorem convertFile_all_or_nothing (finish : Finish) (input : Path) (output : Option Destination)
    (tree : Tree) :
    let after := (convertFile finish input output tree).1
    let outcome := (convertFile finish input output tree).2.outcome
    (output = none → after = tree) ∧
    (∀ stop, outcome = .error stop → stop.isWriting = false →
      (∀ destination, output = some destination → destination.path.holdsNull = false) →
      (∀ conversion, (convertTree finish input tree).outcome = .ok conversion →
        conversion.sdl.string? ≠ none) → after = tree) ∧
    (∀ stop, outcome = .error stop → stop.isWriting = true →
      ∀ place entry, tree.lookup place = some entry → after.lookup place = some entry) ∧
    (∀ destination conversion, output = some destination → outcome = .ok conversion →
      (∃ bytes text lines, tree.read input = .ok bytes ∧ Text.decode bytes = .ok text ∧
        Text.Lines text lines ∧
        (convert finish (String.ofList (['\n'].intercalate lines))).outcome = .ok conversion) ∧
      ∃ encodable, conversion.sdl = Points.of encodable ∧
        tree.Written after destination.path (Text.encode encodable)) ∧
    (∀ destination, output = some destination → destination.path.holdsNull = true →
      (∀ conversion, outcome ≠ .ok conversion) ∧
      Tree.Grows destination.path.start destination.path.parent.segments tree after) ∧
    ∀ destination conversion, output = some destination → destination.path.holdsNull = false →
      (convertTree finish input tree).outcome = .ok conversion → conversion.sdl.string? = none →
      (∃ reason, outcome = .error (.failure (.writing destination.path.display reason)) ∧
        Tree.Grows destination.path.start destination.path.parent.segments tree after) ∨
      (outcome = .error (.fault .unencodable) ∧ tree.Written after destination.path []) := by
  intro after outcome
  cases output with
  | none =>
    exact ⟨fun _ => rfl, fun _ _ _ _ _ => rfl, fun _ _ _ _ _ found => found,
      (fun _ _ given => nomatch given), (fun _ given => nomatch given), fun _ _ given => nomatch given⟩
  | some destination =>
    have settled : Settled tree destination.path (convertTree finish input tree).outcome after outcome :=
      convertFile_settled destination
    refine ⟨(fun missing => nomatch missing), ?_, ?_, ?_, ?_, ?_⟩
    · intro stop stopped other named whole
      rw [stopped] at settled
      exact settled_unchanged settled other (named destination rfl) whole
    · intro stop stopped writing
      rw [stopped] at settled
      exact settled_kept settled writing
    · intro _ conversion same done
      cases same
      rw [done] at settled
      obtain ⟨converted, written⟩ := settled_done settled
      exact ⟨convertTree_some converted, written⟩
    · intro _ same unnamed
      cases same
      exact settled_unnamed settled unnamed
    · intro _ conversion same named converted halved
      cases same
      rw [converted] at settled
      exact settled_halved settled named halved

-- A source with carriage returns in it.
def userTree : Tree :=
  ⟨["work"], [(["work"], .directory),
    (["work", "a.ts"], .file (Text.encode "type A = \x7b\r\n  a: string\r\x7d"))]⟩

def userOutput : Destination := ⟨⟨.here, ["new", "..", "deep", "a.graphql"]⟩, "new/../deep/a.graphql"⟩

def userText : String := "type A \x7b\n  a: String!\n\x7d\n"

def gives (text : String) (outcome : Except Stop Conversion) : Bool :=
  match outcome with
  | .ok conversion => conversion.sdl = Points.of text
  | .error _ => false

theorem gives_some {text : String} {outcome : Except Stop Conversion}
    (given : gives text outcome = true) :
    ∃ conversion, outcome = .ok conversion ∧ conversion.sdl = Points.of text := by
  cases outcome with
  | ok conversion => exact ⟨conversion, rfl, of_decide_eq_true given⟩
  | error stop => cases given

theorem convertFile_all_or_nothing_users :
    ∃ conversion, (convertFile .none ⟨.here, ["a.ts"]⟩ (some userOutput) userTree).2.outcome =
        .ok conversion ∧
      userTree.Written (convertFile .none ⟨.here, ["a.ts"]⟩ (some userOutput) userTree).1
        userOutput.path (Text.encode userText) := by
  have given : gives userText
      (convertFile .none ⟨.here, ["a.ts"]⟩ (some userOutput) userTree).2.outcome = true := by
    decide +kernel
  obtain ⟨conversion, done, text⟩ := gives_some given
  obtain ⟨_, _, _, returned, _, _⟩ :=
    convertFile_all_or_nothing .none ⟨.here, ["a.ts"]⟩ (some userOutput) userTree
  obtain ⟨_, encodable, whole, written⟩ := returned userOutput conversion rfl done
  have same : userText = encodable := Points.of_inj.mp (text.symm.trans whole)
  exact ⟨conversion, done, same ▸ written⟩

-- The name of the file holds a null character.
def unnamedOutput : Destination := ⟨⟨.here, ["d", "x\x00y"]⟩, "d/x\x00y"⟩

-- The schema describes its type by a character made of two halves, and the output is there already.
def halvedTree : Tree :=
  ⟨["work"], [(["work"], .directory), (["work", "old"], .file (Text.encode "scalar Old\n")),
    (["work", "a.ts"],
      .file (Text.encode "const t = gql`\"\\ud83d\\ude00\" type A \x7b a: Int \x7d`;"))]⟩

def oldOutput : Destination := ⟨⟨.here, ["old"]⟩, "old"⟩

-- Where neither is told of as a failure to write, a new directory stays for a name that the system
-- does not take, and a file is emptied for a schema that has no bytes.
theorem convertFile_leaves_traces :
    let unnamed := convertFile .none ⟨.here, ["a.ts"]⟩ (some unnamedOutput) userTree
    let halved := convertFile .none ⟨.here, ["a.ts"]⟩ (some oldOutput) halvedTree
    (unnamed.2.outcome = .error (.fault .nullInName) ∧ userTree.lookup ["work", "d"] = none ∧
      unnamed.1.lookup ["work", "d"] = some .directory) ∧
    halved.2.outcome = .error (.fault .unencodable) ∧
      halvedTree.lookup ["work", "old"] = some (.file (Text.encode "scalar Old\n")) ∧
      halved.1.lookup ["work", "old"] = some (.file []) := by
  refine ⟨⟨stopsWith_error ?_, ?_, ?_⟩, stopsWith_error ?_, ?_, ?_⟩
  all_goals decide +kernel

end DeclSchema
