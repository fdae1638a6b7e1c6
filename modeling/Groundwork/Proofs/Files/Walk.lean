import Groundwork.Files.Basic
import Groundwork.Proofs.Path

/-!
Following paths in a tree. A path leads through directories only, and to a location that does not
depend on what the tree holds; directories that are added cannot lead it elsewhere.
-/

namespace Groundwork.Files

open Path

variable {files tree : Files} {start middle location : Location}

-----------------------------------------------------------------------------------------
-- Nodes
-----------------------------------------------------------------------------------------

@[simp]
theorem node?_top (files : Files) : files.node? [] = some .directory := rfl

theorem node?_setNode (below : location ≠ []) (node : FileNode) (other : Location)
    : (files.setNode location node).node? other
      = if other = location then some node else files.node? other := by
  cases other with
  | nil => simp [Ne.symm below]
  | cons name rest => simp [node?, setNode, Dictionary.get?_insert, eq_comm]

theorem node?_dropNode (below : location ≠ []) (other : Location)
    : (files.dropNode location).node? other
      = if other = location then none else files.node? other := by
  cases other with
  | nil => simp [Ne.symm below]
  | cons name rest => simp [node?, dropNode, Dictionary.get?_erase, eq_comm]

-----------------------------------------------------------------------------------------
-- Where segments lead, whatever the tree holds
-----------------------------------------------------------------------------------------

/-- Where a segment leads from a location. -/
def advance (location : Location) (segment : String) : Location :=
  if isIdle segment then location
  else if segment = ".." then location.dropLast
  else location ++ [segment]

/-- Where segments lead from a location, as far as there are directories on the way. -/
def follow (location : Location) (segments : List String) : Location := segments.foldl advance location

@[simp]
theorem follow_nil (location : Location) : follow location [] = location := rfl

@[simp]
theorem follow_cons (location : Location) (segment : String) (rest : List String)
    : follow location (segment :: rest) = follow (advance location segment) rest :=
  rfl

theorem follow_append (location : Location) (first second : List String)
    : follow location (first ++ second) = follow (follow location first) second :=
  List.foldl_append ..

theorem advance_idle {segment : String} (idle : isIdle segment = true)
    : advance location segment = location := by
  simp [advance, idle]

theorem advance_name {name : String} (plain : IsName name)
    : advance location name = location ++ [name] := by
  simp [advance, plain.counts, plain.down]

/-- Segments that never lead up add their names; by induction on them. -/
theorem follow_names {segments : List String} (down : ".." ∉ segments)
    : follow location segments = location ++ namesOf segments := by
  induction segments generalizing location with
  | nil => simp [namesOf]
  | cons segment rest ih =>
      have later : ".." ∉ rest := fun found => down (List.mem_cons_of_mem _ found)
      cases counts : isIdle segment with
      | true => simp [advance_idle counts, ih later, namesOf, counts]
      | false =>
          have plain : IsName segment := ⟨counts, fun same => down (by simp [same])⟩
          simp [advance_name plain, ih later, plain.namesOf_cons]

theorem follow_idle {segments : List String} (idle : AllIdle segments)
    : follow location segments = location := by
  have down : ".." ∉ segments := fun found => absurd (idle _ found) (by decide)
  rw [follow_names down, namesOf_idle idle, List.append_nil]

-----------------------------------------------------------------------------------------
-- One step of a walk
-----------------------------------------------------------------------------------------

theorem walk_nil {node : FileNode} (found : files.node? location = some node)
    : files.walk location [] = .ok (.taken location node) := by
  simp [walk, found]

theorem walk_idle {segment : String} (open_ : files.node? location = some .directory)
    (idle : isIdle segment = true) (rest : List String)
    : files.walk location (segment :: rest) = files.walk location rest := by
  simp [walk, open_, idle]

/-- Idle segments lead nowhere else; by induction on them. -/
theorem walk_allIdle (open_ : files.node? location = some .directory) {segments : List String}
    (idle : AllIdle segments)
    : files.walk location segments = .ok (.taken location .directory) := by
  induction segments with
  | nil => exact walk_nil open_
  | cons segment rest ih =>
      rw [walk_idle open_ (idle segment List.mem_cons_self)]
      exact ih fun other member => idle other (List.mem_cons_of_mem _ member)

theorem walk_up (open_ : files.node? location = some .directory) (rest : List String)
    : files.walk location (".." :: rest) = files.walk location.dropLast rest := by
  have counts : isIdle ".." = false := by decide
  simp [walk, open_, counts]

/-- A name leads to a node, which is followed further, or to a free place if nothing but slashes
comes after it.
-/
theorem walk_name {name : String} (open_ : files.node? location = some .directory)
    (plain : IsName name) (short : name.utf8ByteSize ≤ nameLimit) (rest : List String)
    : files.walk location (name :: rest)
      = if (files.node? (location ++ [name])).isSome then files.walk (location ++ [name]) rest
        else if rest.all String.isEmpty then .ok (.free location name !rest.isEmpty)
        else .error .notFound := by
  simp [walk, open_, plain.counts, plain.down, Nat.not_lt.mpr short]

/-- A walk that leads anywhere starts at a directory, unless there is nothing to follow. -/
theorem directory_of_walk {segment : String} {rest : List String} {place : Place}
    (leads : files.walk location (segment :: rest) = .ok place)
    : files.node? location = some .directory := by
  rw [walk] at leads
  split at leads
  · cases leads
  · cases leads
  · assumption

/-- The ways in which a walk can go on, from a directory to where the rest leads or to a free place.
-/
inductive WalkStep (files : Files) (location : Location) (segment : String) (rest : List String)
    (place : Place) : Prop
  | idle (idle : isIdle segment = true) (later : files.walk location rest = .ok place)
  | up (up : segment = "..") (later : files.walk location.dropLast rest = .ok place)
  | name {node : FileNode} (plain : IsName segment) (short : segment.utf8ByteSize ≤ nameLimit)
    (found : files.node? (location ++ [segment]) = some node)
    (later : files.walk (location ++ [segment]) rest = .ok place)
  | free (plain : IsName segment) (short : segment.utf8ByteSize ≤ nameLimit)
    (missing : files.node? (location ++ [segment]) = none) (slashes : rest.all String.isEmpty)
    (here : place = .free location segment !rest.isEmpty)

/-- A walk that leads somewhere takes one of these steps; by cases on its first segment. -/
theorem walk_step {segment : String} {rest : List String} {place : Place}
    (leads : files.walk location (segment :: rest) = .ok place)
    : WalkStep files location segment rest place := by
  have open_ := directory_of_walk leads
  cases idle : isIdle segment with
  | true => exact .idle idle (walk_idle open_ idle rest ▸ leads)
  | false =>
      by_cases up : segment = ".."
      · exact .up up (by rw [up, walk_up open_] at leads; exact leads)
      · have plain : IsName segment := ⟨idle, up⟩
        by_cases short : segment.utf8ByteSize ≤ nameLimit
        · rw [walk_name open_ plain short] at leads
          cases found : files.node? (location ++ [segment]) with
          | some node => exact .name plain short found (by simpa [found] using leads)
          | none =>
              simp only [found, Option.isSome_none, Bool.false_eq_true, if_false] at leads
              split at leads
              · next slashes => exact .free plain short found slashes (by cases leads; rfl)
              · cases leads
        · simp [walk, open_, idle, up, Nat.lt_of_not_le short] at leads

-----------------------------------------------------------------------------------------
-- Where whole walks lead
-----------------------------------------------------------------------------------------

/-- Walks to a directory can be gone on from there; by induction on the first part. -/
theorem walk_append {first : List String}
    (leads : files.walk start first = .ok (.taken middle .directory)) (second : List String)
    : files.walk start (first ++ second) = files.walk middle second := by
  induction first generalizing start with
  | nil =>
      rw [walk] at leads
      split at leads
      · cases leads
        rfl
      · cases leads
  | cons segment rest ih =>
      have open_ := directory_of_walk leads
      rw [List.cons_append]
      cases walk_step leads with
      | idle idle later => rw [walk_idle open_ idle, ih later]
      | up up later => rw [up, walk_up open_, ih later]
      | name plain short found later =>
          rw [walk_name open_ plain short, if_pos (by simp [found]), ih later]
      | free plain short missing slashes here => cases here

/-- A walk leads to the location that its segments give, and what it finds there is the node of the
tree; by induction on the segments.
-/
theorem walk_taken {segments : List String} {node : FileNode}
    (leads : files.walk start segments = .ok (.taken location node))
    : location = follow start segments ∧ files.node? location = some node := by
  induction segments generalizing start with
  | nil =>
      rw [walk] at leads
      split at leads
      · next found =>
          cases leads
          exact ⟨rfl, found⟩
      · cases leads
  | cons segment rest ih =>
      rw [follow_cons]
      cases walk_step leads with
      | idle idle later => rw [advance_idle idle]; exact ih later
      | up up later => rw [up]; exact ih later
      | name plain short found later => rw [advance_name plain]; exact ih later
      | free plain short missing slashes here => cases here

/-- The first part of a walk to a directory leads to a directory; by induction on its segments. -/
theorem walk_of_append {first second : List String}
    (leads : files.walk start (first ++ second) = .ok (.taken location .directory))
    : files.walk start first = .ok (.taken (follow start first) .directory) := by
  induction first generalizing start with
  | nil =>
      refine walk_nil ?_
      cases second with
      | nil =>
          obtain ⟨rfl, found⟩ := walk_taken leads
          exact found
      | cons => exact directory_of_walk leads
  | cons segment rest ih =>
      have open_ := directory_of_walk leads
      rw [follow_cons]
      cases walk_step leads with
      | idle idle later => rw [walk_idle open_ idle, advance_idle idle, ih later]
      | up up later =>
          subst up
          exact (walk_up open_ rest).trans (ih later)
      | name plain short found later =>
          rw [walk_name open_ plain short, if_pos (by simp [found]), advance_name plain, ih later]
      | free plain short missing slashes here => cases here

/-- Idle segments at the end of a walk to a directory can be left out. -/
theorem walk_trim {core idle : List String} (ends : AllIdle idle)
    (leads : files.walk start (core ++ idle) = .ok (.taken location .directory))
    : files.walk start core = .ok (.taken location .directory) := by
  rw [(walk_taken leads).1, follow_append, follow_idle ends]
  exact walk_of_append leads

/-- A walk to a directory passes through directories. -/
theorem walk_through {segments before after : List String}
    (leads : files.walk start segments = .ok (.taken location .directory))
    (split : segments = before ++ after)
    : files.node? (follow start before) = some .directory :=
  (walk_taken (walk_of_append (split ▸ leads))).2

/-- The names that a walk to a directory follows are short enough, wherever it leads up; by induction on
its segments.
-/
theorem walk_short_of_mem {segments : List String}
    (leads : files.walk start segments = .ok (.taken location .directory))
    : ∀ name ∈ segments, IsName name → name.utf8ByteSize ≤ nameLimit := by
  induction segments generalizing start with
  | nil => simp
  | cons segment rest ih =>
      rw [List.forall_mem_cons]
      cases walk_step leads with
      | idle idle onward => exact ⟨fun plain => absurd (plain.counts.symm.trans idle) (by simp), ih onward⟩
      | up up onward => exact ⟨fun plain => absurd up plain.down, ih onward⟩
      | name plain short found onward => exact ⟨fun _ => short, ih onward⟩
      | free plain short missing slashes here => cases here

theorem walk_short {segments : List String} (down : ".." ∉ segments)
    (leads : files.walk start segments = .ok (.taken location .directory))
    : ∀ name ∈ namesOf segments, name.utf8ByteSize ≤ nameLimit := by
  intro name member
  obtain ⟨among, counts⟩ := List.mem_filter.mp member
  exact walk_short_of_mem leads name among ⟨by simpa using counts, fun same => down (same ▸ among)⟩

/-- A walk to a node leads to its location in every tree that has the same directories and perhaps
more, if something is there; by induction on the segments.
-/
theorem walk_of_found {segments : List String} {node node' : FileNode}
    (leads : files.walk start segments = .ok (.taken location node))
    (kept : ∀ place, files.node? place = some .directory → tree.node? place = some .directory)
    (there : tree.node? location = some node')
    : tree.walk start segments = .ok (.taken location node') := by
  induction segments generalizing start with
  | nil =>
      obtain ⟨rfl, -⟩ := walk_taken leads
      exact walk_nil there
  | cons segment rest ih =>
      have open_ := kept _ (directory_of_walk leads)
      cases walk_step leads with
      | idle idle later => rw [walk_idle open_ idle, ih later]
      | up up later => rw [up, walk_up open_, ih later]
      | name plain short found later =>
          have next : (tree.node? (start ++ [segment])).isSome := by
            cases rest with
            | nil =>
                obtain ⟨rfl, -⟩ := walk_taken later
                rw [follow_nil] at there
                rw [there]
                rfl
            | cons => rw [kept _ (directory_of_walk later)]; rfl
          rw [walk_name open_ plain short, if_pos next, ih later]
      | free plain short missing slashes here => cases here

/-- Walks to a directory lead there in every tree that has the same directories and perhaps more. -/
theorem walk_mono {segments : List String}
    (leads : files.walk start segments = .ok (.taken location .directory))
    (kept : ∀ place, files.node? place = some .directory → tree.node? place = some .directory)
    : tree.walk start segments = .ok (.taken location .directory) :=
  walk_of_found leads kept (kept _ (walk_taken leads).2)

-----------------------------------------------------------------------------------------
-- Places that can hold a file
-----------------------------------------------------------------------------------------

/-- Segments lead to a place in a directory that can hold a file, whether or not it does. -/
def WalksTo (files : Files) (start : Location) (segments : List String) (location : Location)
    : Prop :=
  ∃ before parent name,
    segments = before ++ [name]
    ∧ files.walk start before = .ok (.taken parent .directory)
    ∧ location = parent ++ [name]
    ∧ IsName name
    ∧ name.utf8ByteSize ≤ nameLimit

/-- A first step that leads on can be put before a place that can hold a file. -/
theorem WalksTo.cons {next : Location} {segment : String} {rest : List String}
    (step : ∀ more, files.walk start (segment :: more) = files.walk next more)
    (walks : files.WalksTo next rest location)
    : files.WalksTo start (segment :: rest) location := by
  obtain ⟨before, parent, name, rfl, leads, rfl, plain, short⟩ := walks
  exact ⟨segment :: before, parent, name, rfl, (step before).trans leads, rfl, plain, short⟩

/-- A walk that does not lead up to a file ends with the file's name; by induction on the segments,
of which the last cannot be idle because nothing follows a file.
-/
theorem walksTo_of_file {segments : List String} {content : ByteArray} {executable : Bool}
    (down : ".." ∉ segments) (open_ : files.node? start = some .directory)
    (leads : files.walk start segments = .ok (.taken location (.file content executable)))
    : files.WalksTo start segments location := by
  induction segments generalizing start with
  | nil =>
      obtain ⟨rfl, found⟩ := walk_taken leads
      exact absurd (open_.symm.trans found) (by simp)
  | cons segment rest ih =>
      have later : ".." ∉ rest := fun found => down (List.mem_cons_of_mem _ found)
      cases walk_step leads with
      | idle idle onward => exact .cons (walk_idle open_ idle) (ih later open_ onward)
      | up up onward => exact absurd (by simp [up]) down
      | free plain short missing slashes here => cases here
      | @name node plain short found onward =>
          have step (more : List String)
              : files.walk start (segment :: more) = files.walk (start ++ [segment]) more := by
            rw [walk_name open_ plain short, if_pos (by simp [found])]
          cases rest with
          | nil =>
              obtain ⟨rfl, -⟩ := walk_taken onward
              exact ⟨[], start, segment, rfl, walk_nil open_, rfl, plain, short⟩
          | cons => exact .cons step (ih later (directory_of_walk onward) onward)

/-- A walk that ends with a name leads to a place that can hold a file; by induction on the segments
before the name.
-/
theorem walksTo_of_name {init : List String} {name : String} (plain : IsName name) {place : Place}
    (leads : files.walk start (init ++ [name]) = .ok place)
    : files.WalksTo start (init ++ [name]) (follow start (init ++ [name])) := by
  induction init generalizing start with
  | nil =>
      have open_ := directory_of_walk leads
      have short : name.utf8ByteSize ≤ nameLimit := by
        cases walk_step leads with
        | idle idle later => exact absurd (plain.counts.symm.trans idle) (by simp)
        | up up later => exact absurd up plain.down
        | name plain short found later => exact short
        | free plain short missing slashes here => exact short
      exact ⟨[], start, name, rfl, walk_nil open_, advance_name plain, plain, short⟩
  | cons segment rest ih =>
      have open_ := directory_of_walk leads
      rw [List.cons_append, follow_cons]
      cases walk_step leads with
      | idle idle later =>
          rw [advance_idle idle]
          exact .cons (walk_idle open_ idle) (ih later)
      | up up later =>
          have back : advance start segment = start.dropLast := by
            rw [up]
            rfl
          rw [back]
          exact .cons (fun more => up ▸ walk_up open_ more) (ih later)
      | name named short found later =>
          rw [advance_name named]
          refine .cons (fun more => ?_) (ih later)
          rw [walk_name open_ named short, if_pos (by simp [found])]
      | free named short missing slashes here =>
          have empty : name.isEmpty = true := List.all_eq_true.mp slashes name (by simp)
          exact absurd plain.counts (by simp [isIdle, empty])

/-- A walk to a free place ends with its name and slashes; by induction on the segments. -/
theorem walk_free {segments : List String} {parent : Location} {name : String} {slash : Bool}
    (leads : files.walk start segments = .ok (.free parent name slash))
    : ∃ before slashes,
        segments = before ++ name :: slashes
        ∧ slashes.all String.isEmpty
        ∧ slash = !slashes.isEmpty
        ∧ files.walk start before = .ok (.taken parent .directory)
        ∧ files.node? (parent ++ [name]) = none
        ∧ IsName name
        ∧ name.utf8ByteSize ≤ nameLimit := by
  induction segments generalizing start with
  | nil =>
      rw [walk] at leads
      split at leads <;> cases leads
  | cons segment rest ih =>
      have open_ := directory_of_walk leads
      cases walk_step leads with
      | free plain short missing slashes here =>
          cases here
          exact ⟨[], rest, rfl, slashes, rfl, walk_nil open_, missing, plain, short⟩
      | idle idle later =>
          obtain ⟨before, slashes, rfl, all, slash, walks, missing⟩ := ih later
          exact ⟨segment :: before, slashes, rfl, all, slash,
            (walk_idle open_ idle _).trans walks, missing⟩
      | up up later =>
          obtain ⟨before, slashes, rfl, all, slash, walks, missing⟩ := ih later
          exact ⟨segment :: before, slashes, rfl, all, slash,
            by rw [up, walk_up open_, walks], missing⟩
      | name plain short found later =>
          obtain ⟨before, slashes, rfl, all, slash, walks, missing⟩ := ih later
          exact ⟨segment :: before, slashes, rfl, all, slash,
            by rw [walk_name open_ plain short, if_pos (by simp [found]), walks], missing⟩

/-- What a walk to a place that can hold a file finds there. -/
theorem WalksTo.walk {segments : List String} (walks : files.WalksTo start segments location)
    : match files.node? location with
      | some node => files.walk start segments = .ok (.taken location node)
      | none =>
          ∃ parent name,
            location = parent ++ [name] ∧ files.walk start segments = .ok (.free parent name false)
    := by
  obtain ⟨before, parent, name, rfl, leads, rfl, plain, short⟩ := walks
  have open_ : files.node? parent = some .directory := (walk_taken leads).2
  rw [walk_append leads, walk_name open_ plain short]
  cases found : files.node? (parent ++ [name]) with
  | some node => simpa using walk_nil found
  | none => exact ⟨parent, name, rfl, by simp⟩

theorem WalksTo.mono {segments : List String} (walks : files.WalksTo start segments location)
    (kept : ∀ place, files.node? place = some .directory → tree.node? place = some .directory)
    : tree.WalksTo start segments location := by
  obtain ⟨before, parent, name, rfl, leads, rfl, plain, short⟩ := walks
  exact ⟨before, parent, name, rfl, walk_mono leads kept, rfl, plain, short⟩

/-- Trees that agree at and below a location agree on every walk from there that does not lead up;
by induction on the segments.
-/
theorem walk_congr {segments : List String}
    (agree : ∀ place, start <+: place → tree.node? place = files.node? place)
    (down : ".." ∉ segments)
    : tree.walk start segments = files.walk start segments := by
  induction segments generalizing start with
  | nil => simp [Files.walk, agree start List.prefix_rfl]
  | cons segment rest ih =>
      have later : ".." ∉ rest := fun found => down (List.mem_cons_of_mem _ found)
      have up : segment ≠ ".." := fun same => down (by simp [same])
      have here := agree start List.prefix_rfl
      have next := agree (start ++ [segment]) (List.prefix_append ..)
      have inside : ∀ place, start ++ [segment] <+: place → tree.node? place = files.node? place :=
        fun place below => agree place ((List.prefix_append ..).trans below)
      have onward := ih inside later
      rw [Files.walk, Files.walk, here, next, ih agree later, onward]
      simp [up]

end Groundwork.Files
