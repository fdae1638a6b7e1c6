import Groundwork.Settings

/-!
The options of settings are in the order of their names, because the tables of a document are. What is
read of a document is put together out of order, and each table is put in order once it is closed.
-/

namespace Groundwork

-----------------------------------------------------------------------------------------
-- Outcomes
-----------------------------------------------------------------------------------------

/-- An outcome is a fault or a value of some kind. -/
def Yields {ε α : Type} (outcome : Except ε α) (found : α → Prop) : Prop :=
  ∀ value, outcome = .ok value → found value

namespace Yields

variable {ε α β : Type} {found : α → Prop} {later : β → Prop}

theorem pure {value : α} (here : found value) : Yields (Pure.pure value : Except ε α) found := by
  rintro _ ⟨⟩
  exact here

theorem error {fault : ε} : Yields (.error fault : Except ε α) found := nofun

theorem throw {fault : ε} : Yields (throw fault : Except ε α) found := error

/-- A sequence goes on with what was found. -/
theorem bind {first : Except ε α} {next : α → Except ε β} (yields : Yields first found)
    (step : ∀ value, found value → Yields (next value) later)
    : Yields (first >>= next) later := by
  intro result ended
  cases outcome : first with
  | error fault =>
      rw [outcome] at ended
      cases ended
  | ok value =>
      rw [outcome] at ended
      exact step value (yields value outcome) result ended

/-- A sequence goes on, whatever was found. -/
theorem andThen {first : Except ε α} {next : α → Except ε β}
    (step : ∀ value, Yields (next value) later)
    : Yields (first >>= next) later :=
  bind (fun _ _ => trivial : Yields first fun _ => True) fun value _ => step value

/-- What holds at first and is kept by every step holds at last; by induction on the steps. -/
theorem foldlM {f : β → α → Except ε β} {items : List α} {start : β} (first : later start)
    (step : ∀ value, later value → ∀ item ∈ items, Yields (f value item) later)
    : Yields (items.foldlM f start) later := by
  induction items generalizing start with
  | nil => exact .pure first
  | cons item rest ih =>
      rw [List.foldlM_cons]
      refine .bind (step start first item List.mem_cons_self) fun value held => ?_
      exact ih held fun value held item member =>
        step value held item (List.mem_cons_of_mem _ member)

end Yields

-----------------------------------------------------------------------------------------
-- Tables in order
-----------------------------------------------------------------------------------------

/-- The fields of an object are in ascending order of their names. -/
def Datum.Ordered (value : Datum) : Prop :=
  ∀ fields, value = .object fields → fields.Pairwise (·.1 < ·.1)

theorem Datum.ordered_ofList (fields : List (String × Datum))
    : (Datum.object (Dictionary.ofList fields)).Ordered := by
  rintro _ ⟨⟩
  exact Dictionary.pairwise_ofList fields

namespace Toml

/-- What a piece of text yields, it yields within a document. -/
theorem yields_lift {α : Type} {found : α → Prop} {outcome : Except String α}
    (yields : Yields outcome found)
    : Yields (monadLift outcome : Reading α) found := by
  intro value ended
  cases outcome with
  | error fault => cases ended
  | ok value =>
      cases ended
      exact yields _ rfl

/-- Every item of some fields is in order once it is finished. -/
def Fields.Ordered (fields : Fields) : Prop := ∀ field ∈ fields, field.2.toDatum.Ordered

theorem Fields.ordered_nil : Fields.Ordered [] := List.forall_mem_nil _

/-- Tables are put in order when they are finished. -/
theorem ordered_table (implied dotted : Bool) (fields : Fields)
    : (Item.table implied dotted fields).toDatum.Ordered := by
  rw [Item.toDatum]
  exact Datum.ordered_ofList _

theorem ordered_tables (tables : List Fields) : (Item.tables tables).toDatum.Ordered := by
  rw [Item.toDatum]
  exact nofun

theorem Fields.Ordered.set {fields : Fields} (ordered : fields.Ordered) (key : String) {item : Item}
    (fits : item.toDatum.Ordered)
    : (fields.set key item).Ordered := by
  unfold Fields.set
  split
  · intro field member
    obtain ⟨old, there, rfl⟩ := List.mem_map.mp member
    split
    · exact fits
    · exact ordered old there
  · exact List.forall_mem_append.mpr ⟨ordered, List.forall_mem_singleton.mpr fits⟩

/-- Fields stay in order if those that the change works on do, for on the way to them there are nothing
but tables; by cases on the path.
-/
theorem Fields.Ordered.descend {fields : Fields} (ordered : fields.Ordered) {dotted isDotted : Bool}
    {change : Bool → Fields → Except String Fields}
    (keeps : ∀ isDotted fields, fields.Ordered → Yields (change isDotted fields) Fields.Ordered)
    (path : List String)
    : Yields (Toml.descend dotted change path isDotted fields) Fields.Ordered := by
  cases path with
  | nil => exact keeps isDotted fields ordered
  | cons key path =>
      rw [Toml.descend]
      split
      · exact .andThen fun inner => .pure (ordered.set key (ordered_table _ _ _))
      · next implied byDots inner _ =>
        split
        · exact .throw
        · exact .andThen fun inner => .pure (ordered.set key (ordered_table _ _ _))
      · exact .andThen fun last => .pure (ordered.set key (ordered_tables _))
      · exact .throw

theorem Fields.Ordered.insertValue {fields : Fields} (ordered : fields.Ordered) (path : List String)
    (key : String) {value : Datum} (fits : value.Ordered)
    : Yields (Toml.insertValue path key value fields) Fields.Ordered := by
  refine ordered.descend (fun isDotted fields ordered => ?_) path
  dsimp only
  split
  · exact .throw
  · split
    · exact .throw
    · refine .pure (ordered.set key ?_)
      rw [Item.toDatum]
      exact fits

theorem Fields.Ordered.openTable {fields : Fields} (ordered : fields.Ordered) (path : List String)
    (key : String)
    : Yields (Toml.openTable path key fields) Fields.Ordered := by
  refine ordered.descend (fun isDotted fields ordered => ?_) path
  split
  · exact .pure (ordered.set key (ordered_table _ _ _))
  · exact .pure (ordered.set key (ordered_table _ _ _))
  · exact .throw

theorem Fields.Ordered.appendTable {fields : Fields} (ordered : fields.Ordered) (path : List String)
    (key : String)
    : Yields (Toml.appendTable path key fields) Fields.Ordered := by
  refine ordered.descend (fun isDotted fields ordered => ?_) path
  split
  · exact .pure (ordered.set key (ordered_tables _))
  · exact .pure (ordered.set key (ordered_tables _))
  · exact .throw

-----------------------------------------------------------------------------------------
-- What is read of a document
-----------------------------------------------------------------------------------------

/-- What is not in quotes or brackets is no object. -/
theorem readBareValue_ordered (text : List Char)
    : Yields (readBareValue text) fun found => found.1.Ordered := by
  have plain (word : List Char) : ∀ value, bareValue? word = some value → value.Ordered := by
    rintro value read fields rfl
    unfold bareValue? at read
    repeat' split at read
    all_goals simp at read
  unfold readBareValue
  dsimp only
  split
  · next value read => exact .pure (plain _ value read)
  · exact .throw

theorem readValue_ordered (fuel depth : Nat) (text : List Char)
    : Yields (readValue fuel depth text) fun found => found.1.Ordered := by
  cases fuel with
  | zero => exact .throw
  | succ fuel =>
      unfold readValue
      dsimp only
      split
      · exact .andThen fun _ => .pure nofun
      · exact .andThen fun _ => .pure nofun
      · exact .andThen fun _ => .pure nofun
      · exact .andThen fun _ => .pure nofun
      · split
        · exact .throw
        · exact .andThen fun _ => .pure nofun
      · split
        · exact .throw
        · exact .andThen fun _ => .pure (Datum.ordered_ofList _)
      · exact yields_lift (readBareValue_ordered text)

theorem readKeyValue_ordered {document : Document} (ordered : document.root.Ordered)
    (text : List Char)
    : Yields (readKeyValue document text) fun found => found.1.root.Ordered := by
  refine .andThen fun key => ?_
  dsimp only
  split
  · refine .bind (readValue_ordered _ _ _) fun value fits => .andThen fun key => ?_
    refine .bind (yields_lift (ordered.descend ?_ _)) fun root ordered => .pure ordered
    exact fun _ fields ordered => ordered.insertValue _ _ fits
  · exact .throw

theorem readHeader_ordered {document : Document} (ordered : document.root.Ordered) (double : Bool)
    (text : List Char)
    : Yields (readHeader double document text) fun found => found.1.root.Ordered := by
  refine .andThen fun key => .andThen fun path => ?_
  dsimp only
  split
  · exact .bind (yields_lift (ordered.appendTable _ _)) fun root ordered => .pure ordered
  · exact .bind (yields_lift (ordered.openTable _ _)) fun root ordered => .pure ordered
  · exact .throw

/-- The tables of a document stay in order line by line; by induction on the fuel. -/
theorem readLines_ordered (fuel : Nat) {document : Document} (ordered : document.root.Ordered)
    (text : List Char)
    : Yields (readLines fuel document text) fun document => document.root.Ordered := by
  induction fuel generalizing document text with
  | zero => exact .throw
  | succ fuel ih =>
      refine .andThen fun rest => ?_
      split
      · exact .pure ordered
      · exact .bind (readHeader_ordered ordered true _) fun _ ordered => .andThen fun _ => ih ordered _
      · exact .bind (readHeader_ordered ordered false _) fun _ ordered => .andThen fun _ => ih ordered _
      · exact .bind (readKeyValue_ordered ordered _) fun _ ordered => .andThen fun _ => ih ordered _

theorem mem_fieldsToData {fields : Fields} {entry : String × Datum}
    (member : entry ∈ fieldsToData fields)
    : ∃ field ∈ fields, entry = (field.1, field.2.toDatum) := by
  induction fields with
  | nil => cases member
  | cons field rest ih =>
      obtain ⟨key, item⟩ := field
      rw [fieldsToData] at member
      rcases List.mem_cons.mp member with rfl | later
      · exact ⟨_, List.mem_cons_self, rfl⟩
      · obtain ⟨field, there, same⟩ := ih later
        exact ⟨field, List.mem_cons_of_mem _ there, same⟩

/-- A document is an object whose fields are in order, each of them. -/
theorem parse_ordered (text : String)
    : Yields (parse text) fun document =>
        ∃ fields, document = .object fields ∧ ∀ field ∈ fields, field.2.Ordered := by
  refine .bind (readLines_ordered _ Fields.ordered_nil _) fun document ordered => .pure ⟨_, rfl, ?_⟩
  intro entry member
  obtain ⟨field, there, rfl⟩ := mem_fieldsToData (Dictionary.mem_ofList member)
  exact ordered field there

end Toml

-----------------------------------------------------------------------------------------
-- The options of settings
-----------------------------------------------------------------------------------------

/-- Values keep their names when they become options; by induction on the fields. -/
theorem Decode.plainFields_names (fields : List (String × Datum))
    : Yields (plainFields fields) fun options => options.map (·.1) = fields.map (·.1) := by
  induction fields with
  | nil => exact .pure rfl
  | cons field rest ih =>
      refine .andThen fun value => .bind ih fun options names => .pure ?_
      rw [List.map_cons, List.map_cons, names]

theorem Decode.options_ordered {format : DocumentFormat} {found : Datum} (ordered : found.Ordered)
    : Yields (Decode.options format found) (·.Pairwise (·.1 < ·.1)) := by
  unfold Decode.options
  split
  · next fields same =>
    have within : fields.Pairwise (·.1 < ·.1) := by
      cases found with
      | object inner =>
          cases same
          exact ordered _ rfl
      | moment written =>
          cases same
          exact List.pairwise_singleton ..
      | _ => cases same
    intro options read
    have names := plainFields_names fields options read
    rw [← List.pairwise_map] at within ⊢
    rwa [names]
  · exact .error

namespace Settings

theorem decode_ordered {fields : List (String × Datum)}
    (ordered : ∀ field ∈ fields, field.2.Ordered)
    : Yields (decode (.object fields)) (·.options.Pairwise (·.1 < ·.1)) := by
  refine .foldlM .nil fun settings known field member => ?_
  unfold settingsField
  split
  -- Only the options themselves have an order to keep.
  case h_5 => exact .bind (Decode.options_ordered (ordered field member)) fun _ ordered => .pure ordered
  all_goals exact .andThen fun _ => .pure known

theorem accept_yields {settings : Settings} {found : Settings → Prop} (here : found settings)
    : Yields settings.accept found := by
  unfold accept
  split
  · exact .error
  · exact .pure here

/-- Settings that can be loaded have options in the order of their names. -/
theorem load_ordered (files : Files) (path : Path)
    : Yields (load files path) (·.options.Pairwise (·.1 < ·.1)) := by
  unfold load
  split
  · split
    · exact .error
    · next text _ =>
      split
      · exact .error
      · next settings decoded =>
        refine accept_yields ?_
        unfold Toml.decode at decoded
        split at decoded
        · cases decoded
        · cases decoded
        · next document read =>
          obtain ⟨fields, rfl, ordered⟩ := Toml.parse_ordered text document read
          split at decoded
          · next within =>
            cases decoded
            exact decode_ordered ordered _ within
          · cases decoded
  · exact accept_yields .nil

end Settings

end Groundwork
