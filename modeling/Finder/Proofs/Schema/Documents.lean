import Finder.Proofs.Json.Reading
import Finder.Proofs.Schema.WellFormed
import Finder.Schema.Document
import Finder.Schema.Encoding

namespace Finder

open Json

-- Records may have their members in any order.
inductive Property.EncodedAs (property : Property) : Tree → Prop
  | object (column members : List (String × Tree))
      (hcolumn : OptionalAs "column" property.column column)
      (hmembers : members.Perm
        ([("name", .text property.name), ("type", property.type.tree)] ++ column)) :
      EncodedAs property (.object members)

inductive Entity.EncodedAs (entity : Entity) : Tree → Prop
  | object (table supertype members : List (String × Tree)) (properties : List Tree)
      (htable : OptionalAs "table" entity.table table)
      (hsupertype : OptionalAs "extends" entity.supertype supertype)
      (hproperties : List.Forall₂ Property.EncodedAs entity.properties properties)
      (hmembers : members.Perm ([("name", .text entity.name)] ++ table ++ [("id", .text entity.id)]
        ++ supertype ++ [("properties", .list properties)])) :
      EncodedAs entity (.object members)

-- Entities as a document.
inductive Entity.DocumentedAs (entities : List Entity) : Tree → Prop
  | document (trees : List Tree) (htrees : List.Forall₂ Entity.EncodedAs entities trees) :
      DocumentedAs entities (.object [("entities", .list trees)])

theorem optionalAs_optionalMember (key : String) (value : Option String) :
    OptionalAs key value (optionalMember key value) := by
  cases value with
  | none => exact .leftOut
  | some value => exact .present value

-- What the library writes itself is one of the forms that it reads.
theorem Entity.encodedAs_tree (entity : Entity) : entity.EncodedAs entity.tree := by
  have hproperties : List.Forall₂ Property.EncodedAs entity.properties
      (entity.properties.map Property.tree) := by
    rw [List.forall₂_map_right_iff, List.forall₂_same]
    intro property _
    exact .object _ _ (optionalAs_optionalMember "column" property.column) (.refl _)
  exact .object _ _ _ _ (optionalAs_optionalMember "table" entity.table)
    (optionalAs_optionalMember "extends" entity.supertype) hproperties (.refl _)

namespace PropertyType

theorem ofName?_name (kind : Scalar) : Scalar.ofName? kind.name = some kind := by
  cases kind <;> decide

theorem ofWord?_name (kind : Scalar) : ofWord? (literalOf kind.name) = some (.scalar kind) := by
  rw [ofWord?, text_literalOf]
  simp [ofName?_name]

-- A scalar and a reference are written so that neither is taken for the other.
theorem ofDraft?_tree (type : PropertyType) : ofDraft? type.tree.draft = some type := by
  cases type with
  | scalar kind => exact ofWord?_name kind
  | entity target =>
      simp [PropertyType.tree, Tree.draft, Tree.draftMembers, ofDraft?, ofMembers?, targets,
        text_literalOf, Except.toOption]

theorem readFault?_tree (type : PropertyType) (room : Nat) :
    type.tree.draft.readFault? (room + 1) = none := by
  cases type with
  | scalar kind => simp [PropertyType.tree, Tree.draft, Draft.readFault?, text_literalOf, faultOf]
  | entity target =>
      simp [PropertyType.tree, Tree.draft, Tree.draftMembers, Draft.readFault?, readMembers?,
        text_literalOf, faultOf, ObjectEnd.reading?]

theorem read_tree (type : PropertyType) : read type.tree.draft = .ok type := by
  rw [read, show greatestDepth - levelsAbove = 121 + 1 from rfl, readFault?_tree, ofDraft?_tree]
  rfl

end PropertyType

theorem Property.form_separate : Property.form.Separate := by
  constructor
  case sets =>
    intro field hfield
    simp only [form, List.mem_cons, List.not_mem_nil, or_false] at hfield
    rcases hfield with rfl | rfl | rfl <;>
    exact Field.Puts.sets (fun _ _ => rfl) fun _ _ => rfl
  case apart =>
    simp only [form, List.pairwise_cons, List.mem_cons, List.not_mem_nil, or_false,
      forall_eq_or_imp, forall_eq, false_imp_iff, implies_true, List.Pairwise.nil, and_true]
    refine ⟨⟨?_, ?_⟩, ?_⟩ <;>
    exact Field.Puts.apart (fun _ _ => rfl) (fun _ _ => rfl) (fun _ _ => rfl) (fun _ _ => rfl)
      fun _ _ _ => rfl

theorem Property.read_encoded (property : Property) (tree : Tree) (h : property.EncodedAs tree) :
    form.read tree.draft = .ok property := by
  obtain ⟨column, members, hcolumn, hmembers⟩ := h
  refine RecordForm.read_object_of_perm form_separate hmembers property ?_
  have hname := form.collectMembers_field .closed ⟨none, none, none⟩
    ⟨some property.name, none, none⟩ "name" (Tree.text property.name).draft
    ((literalOf "type", property.type.tree.draft) :: Tree.draftMembers column) _ rfl rfl
    ((except_bind_eq_ok ..).mpr ⟨property.name, readText_text property.name, rfl⟩)
  have htype := form.collectMembers_field .closed ⟨some property.name, none, none⟩
    ⟨some property.name, some property.type, none⟩ "type" property.type.tree.draft
    (Tree.draftMembers column) _ rfl rfl
    ((except_bind_eq_ok ..).mpr ⟨property.type, property.type.read_tree, rfl⟩)
  obtain ⟨slot, hslot, hlast⟩ := form.exists_slot hcolumn _
    ⟨some property.name, some property.type, none⟩
    (fun slot => ⟨some property.name, some property.type, slot⟩) rfl rfl rfl
    (fun draft => except_bind_return _ _) .closed []
  rw [List.append_nil] at hlast
  refine (except_bind_eq_ok ..).mpr ⟨⟨some property.name, some property.type, slot⟩, ?_, ?_⟩
  · exact hname.trans (htype.trans hlast)
  · simp [form, required, hslot, bind, Except.bind, pure, Except.pure]

theorem Entity.form_separate : Entity.form.Separate := by
  constructor
  case sets =>
    intro field hfield
    simp only [form, List.mem_cons, List.not_mem_nil, or_false] at hfield
    rcases hfield with rfl | rfl | rfl | rfl | rfl <;>
    exact Field.Puts.sets (fun _ _ => rfl) fun _ _ => rfl
  case apart =>
    simp only [form, List.pairwise_cons, List.mem_cons, List.not_mem_nil, or_false,
      forall_eq_or_imp, forall_eq, false_imp_iff, implies_true, List.Pairwise.nil, and_true]
    refine ⟨⟨?_, ?_, ?_, ?_⟩, ⟨?_, ?_, ?_⟩, ⟨?_, ?_⟩, ?_⟩ <;>
    exact Field.Puts.apart (fun _ _ => rfl) (fun _ _ => rfl) (fun _ _ => rfl) (fun _ _ => rfl)
      fun _ _ _ => rfl

theorem Entity.read_encoded (entity : Entity) (tree : Tree) (h : entity.EncodedAs tree) :
    form.read tree.draft = .ok entity := by
  obtain ⟨table, supertype, members, properties, htable, hsupertype, hproperties, hmembers⟩ := h
  refine RecordForm.read_object_of_perm form_separate hmembers entity ?_
  have hread : readList Property.form.read (Tree.list properties).draft = .ok entity.properties :=
    readList_of_forall₂ _ _ _ (hproperties.imp fun property tree => property.read_encoded tree)
  have hname := form.collectMembers_field .closed ⟨none, none, none, none, none⟩
    ⟨some entity.name, none, none, none, none⟩ "name" (Tree.text entity.name).draft
    (Tree.draftMembers table ++ (literalOf "id", (Tree.text entity.id).draft) ::
      (Tree.draftMembers supertype ++ [(literalOf "properties", (Tree.list properties).draft)]))
    _ rfl rfl ((except_bind_eq_ok ..).mpr ⟨entity.name, readText_text entity.name, rfl⟩)
  obtain ⟨slot, hslot, htaken⟩ := form.exists_slot htable _
    ⟨some entity.name, none, none, none, none⟩
    (fun slot => ⟨some entity.name, slot, none, none, none⟩) rfl rfl rfl
    (fun draft => except_bind_return _ _) .closed
    ((literalOf "id", (Tree.text entity.id).draft) ::
      (Tree.draftMembers supertype ++ [(literalOf "properties", (Tree.list properties).draft)]))
  have hid := form.collectMembers_field .closed ⟨some entity.name, slot, none, none, none⟩
    ⟨some entity.name, slot, some entity.id, none, none⟩ "id" (Tree.text entity.id).draft
    (Tree.draftMembers supertype ++ [(literalOf "properties", (Tree.list properties).draft)])
    _ rfl rfl ((except_bind_eq_ok ..).mpr ⟨entity.id, readText_text entity.id, rfl⟩)
  obtain ⟨slot', hslot', hinherited⟩ := form.exists_slot hsupertype _
    ⟨some entity.name, slot, some entity.id, none, none⟩
    (fun slot' => ⟨some entity.name, slot, some entity.id, slot', none⟩) rfl rfl rfl
    (fun draft => except_bind_return _ _) .closed
    [(literalOf "properties", (Tree.list properties).draft)]
  have hlist := form.collectMembers_field .closed
    ⟨some entity.name, slot, some entity.id, slot', none⟩
    ⟨some entity.name, slot, some entity.id, slot', some entity.properties⟩ "properties"
    (Tree.list properties).draft [] _ rfl rfl
    ((except_bind_eq_ok ..).mpr ⟨entity.properties, hread, rfl⟩)
  refine (except_bind_eq_ok ..).mpr
    ⟨⟨some entity.name, slot, some entity.id, slot', some entity.properties⟩, ?_, ?_⟩
  · show form.collectMembers .closed form.start (Tree.draftMembers _) = _
    simp only [Tree.draftMembers_append, List.append_assoc]
    exact hname.trans (htaken.trans (hid.trans (hinherited.trans hlist)))
  · simp [form, required, hslot, hslot', bind, Except.bind, pure, Except.pure]

theorem Entity.read_documented (entities : List Entity) (document : Tree)
    (h : DocumentedAs entities document) : listForm.read document.draft = .ok entities := by
  obtain ⟨trees, htrees⟩ := h
  have hread : readList Entity.form.read (Tree.list trees).draft = .ok entities :=
    readList_of_forall₂ _ _ _ (htrees.imp fun entity tree => entity.read_encoded tree)
  have hlist := listForm.collectMembers_field .closed none (some entities) "entities"
    (Tree.list trees).draft [] _ rfl rfl ((except_bind_eq_ok ..).mpr ⟨entities, hread, rfl⟩)
  exact (except_bind_eq_ok ..).mpr ⟨some entities, hlist, rfl⟩

theorem Entity.readDocument_documented (entities : List Entity) (document : Tree) (text : String)
    (hdocument : DocumentedAs entities document) (htext : document.WrittenAs text) :
    readDocument listForm.read text = .ok entities := by
  rw [readDocument, Document.parse_of_writtenAs document text htext]
  exact (except_bind_eq_ok ..).mpr ⟨entities, read_documented entities document hdocument, rfl⟩

namespace Schema

-- The document of a schema, as the library writes it.
def tree (schema : Schema) : Tree :=
  .object [("entities", .list (schema.entities.map Entity.tree))]

-- A schema that was written is read as it was.
theorem ofDocument_tree (schema : Schema) (text : String) (htext : schema.tree.WrittenAs text) :
    ofDocument text = .ok schema := by
  have hentities : List.Forall₂ Entity.EncodedAs schema.entities
      (schema.entities.map Entity.tree) := by
    rw [List.forall₂_map_right_iff, List.forall₂_same]
    intro entity _
    exact entity.encodedAs_tree
  rw [ofDocument, Entity.readDocument_documented schema.entities schema.tree text
    (.document _ hentities) htext]
  show (ofEntities schema.entities).mapError _ = _
  rw [schema.ofEntities_entities]
  rfl

-- It may be laid out on one line without blanks, or with one item a line.
theorem ofDocument_layouts (schema : Schema) :
    ofDocument schema.tree.compactText = .ok schema ∧
      ofDocument (schema.tree.indentedText ++ "\n") = .ok schema :=
  ⟨schema.ofDocument_tree _ schema.tree.writtenAs_compactText,
    schema.ofDocument_tree _ schema.tree.writtenAs_indentedText⟩

-- A document comes to what its declarations come to: in whatever order the members of its objects
-- are written, whether absent values are left out or null, and wherever there are blanks.
theorem ofDocument_of_documented (entities : List Entity) (document : Tree) (text : String)
    (hdocument : Entity.DocumentedAs entities document) (htext : document.WrittenAs text) :
    ofDocument text = (ofEntities entities).mapError .unsound := by
  rw [ofDocument, Entity.readDocument_documented entities document text hdocument htext]
  rfl

-- A pet knows its mother. The name of the table has to be escaped.
def pets : List Entity :=
  [⟨"Pet", some "all \"pets\"\n", "petId", none,
    [⟨"petId", .scalar .integer, none⟩, ⟨"mother", .entity "Pet", some "mère"⟩]⟩]

def petSchema : Schema where
  entities := pets
  ascending := by decide +kernel
  named := by decide +kernel
  flawless := by decide +kernel

-- All members stand the other way round, and one absent value is null.
def petsDocument : Tree :=
  .object [("entities", .list [.object [
    ("properties", .list [
      .object [("column", .null), ("type", .text "integer"), ("name", .text "petId")],
      .object [("column", .text "mère"), ("type", .object [("entity", .text "Pet")]),
        ("name", .text "mother")]]),
    ("id", .text "petId"),
    ("table", .text "all \"pets\"\n"),
    ("name", .text "Pet")]])]

theorem pets_documented : Entity.DocumentedAs pets petsDocument := by
  have hid : Property.EncodedAs ⟨"petId", .scalar .integer, none⟩ (.object
      [("column", .null), ("type", .text "integer"), ("name", .text "petId")]) :=
    .object _ _ .null (List.reverse_perm [("name", _), ("type", _), ("column", _)])
  have hmother : Property.EncodedAs ⟨"mother", .entity "Pet", some "mère"⟩ (.object
      [("column", .text "mère"), ("type", .object [("entity", .text "Pet")]),
        ("name", .text "mother")]) :=
    .object _ _ (.present "mère") (List.reverse_perm [("name", _), ("type", _), ("column", _)])
  refine .document _ (.cons ?_ .nil)
  exact .object _ _ _ _ (.present _) .leftOut (.cons hid (.cons hmother .nil))
    (List.reverse_perm [("name", _), ("table", _), ("id", _), ("properties", _)])

theorem ofDocument_of_documented_pets :
    Entity.DocumentedAs pets petsDocument ∧
      petsDocument.WrittenAs (petsDocument.indentedText ++ "\n") ∧
      ofDocument (petsDocument.indentedText ++ "\n") = .ok petSchema := by
  have hwritten := petsDocument.writtenAs_indentedText
  have hschema : ofEntities pets = .ok petSchema :=
    (ofEntities_eq_ok_iff pets petSchema).mpr ⟨by decide +kernel, by decide +kernel, by decide +kernel⟩
  refine ⟨pets_documented, hwritten, ?_⟩
  rw [ofDocument_of_documented pets petsDocument _ pets_documented hwritten, hschema]
  rfl

end Schema

end Finder
