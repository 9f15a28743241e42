import Finder.Proofs.Query.Outcomes
import Finder.Proofs.Statement.Described

namespace Finder

namespace Query

-- No call fails in the database, given the right number of arguments and a mapper for all rows.
def RunsOn (query : Query) (database : Database) : Prop :=
  ∀ (α : Type) (mapper : Row → Option α) (shape : Shape) (arguments : List Value),
    (∀ row, mapper row ≠ none) → arguments.length = query.arity →
      ∀ failure, (query.call shape database mapper arguments).result ≠ .error (.failed failure)

theorem shaped_ne_failed {α : Type} (query : Query) (shape : Shape) (rows : List α)
    (failure : Failure) : query.shaped shape rows ≠ .error (.failed failure) := by
  rcases query.shaped_result shape rows with ⟨outcome, hresult⟩ | ⟨count, hresult⟩
  · simp [hresult]
  · simp [hresult]

-- What is left to go wrong where a statement gives its rows is that there are too many of them.
theorem Gives.result_ne_failed {query : Query} {database : Database} {arguments : List Value}
    {rows : List Row} (h : query.Gives database arguments rows) {α : Type}
    (mapper : Row → Option α) (shape : Shape) (htotal : ∀ row, mapper row ≠ none)
    (failure : Failure) :
    (query.call shape database mapper arguments).result ≠ .error (.failed failure) := by
  obtain ⟨mapped, hmapped⟩ := exists_mapped mapper rows fun row _ => htotal row
  rw [h.result_eq, (mapRows_eq_ok_iff mapper rows mapped).mpr hmapped]
  split
  · simp
  · exact shaped_ne_failed query shape mapped failure

theorem runsOn_of_counts {schema : Schema} {root : String} {query : Query} {database : Database}
    (h : Counts schema root query) (hdescribes : schema.Describes database) :
    query.RunsOn database := by
  intro α mapper shape arguments _ hlength failure
  obtain ⟨name, hname, _, _⟩ := h.statement_eq
  obtain ⟨entity, hentity, _, rfl⟩ := schema.exists_entity_of_tableName? root name hname
  obtain ⟨table, htable⟩ := Option.isSome_iff_exists.mp (hdescribes.tables entity hentity)
  rw [count_result h hname htable mapper shape arguments hlength]
  simp

-- A query that runs has a statement that gives rows, whatever it is asked for.
theorem RunsOn.exists_rows {query : Query} {database : Database} (h : query.RunsOn database)
    (selection : Selection) (hselection : query.statement = .select selection) :
    ∃ bound rows, selection.rows database bound = .ok rows := by
  have hlength : (List.replicate query.arity Value.null).length = query.arity :=
    List.length_replicate
  have hcall := h Row some .collection (List.replicate query.arity .null) (by simp) hlength
  cases hbound : query.bind (List.replicate query.arity Value.null) with
  | error error =>
      rw [bind, if_pos hlength] at hbound
      cases hbound
  | ok bound =>
      cases hrows : selection.rows database bound with
      | ok rows => exact ⟨bound, rows, hrows⟩
      | error failure =>
          refine absurd ?_ (hcall failure)
          simp only [call, hbound, hselection, hrows]

-- Counts always run on what the schema describes. All else runs there just when the references of
-- the root can be joined: then every name in the statement is a column that some property asks for,
-- and means one column only.
theorem runs_on_described_iff (schema : Schema) (root method : String) (query : Query)
    (hcompile : compile schema root method = .ok query) :
    (∀ database, schema.Describes database → query.RunsOn database) ↔
      query.criteria.verb = .count ∨ schema.Joinable root := by
  have hcompiled := (compile_eq_ok_iff _ _ _ _).mp hcompile
  by_cases hverb : query.criteria.verb = .count
  · have hcounts := hcompiled.counts hverb
    exact ⟨fun _ => .inl hverb, fun _ database hdescribes => runsOn_of_counts hcounts hdescribes⟩
  obtain ⟨hfind, _⟩ := hcompiled.find_eq hverb
  obtain ⟨selection, hselection, hfinds⟩ := Statement.finds_of_find _ _ _ _ hfind
  constructor
  · intro hruns
    exact .inr (hfinds.joinable_of_rows fun database hdescribes =>
      (hruns database hdescribes).exists_rows selection hselection)
  · rintro (hcount | hjoinable) database hdescribes
    · exact absurd hcount hverb
    intro α mapper shape arguments htotal hlength failure
    obtain ⟨selection, bound, rows, hselection, hbound, hrows, _⟩ :=
      rows_of_compiled schema root method query database arguments hcompile hverb
        (fun other hother => by
          obtain rfl := Statement.select.inj (hselection.symm.trans hother)
          exact hfinds.served hdescribes hjoinable) hlength
    have hgives : query.Gives database arguments rows :=
      ⟨selection, bound, hselection, hbound, hrows⟩
    exact hgives.result_ne_failed mapper shape htotal failure

theorem runs_on_described_findOwners :
    owners.Describes village ∧ owners.Joinable "Owner" ∧ findOwners.RunsOn village := by
  have hdescribes : owners.Describes village := ⟨by decide +kernel, by decide +kernel⟩
  have hjoinable : owners.Joinable "Owner" := by
    have htable : owners.tableName? "Owner" = some "owner" := by decide +kernel
    have hid : owners.idColumn? "Owner" = some "id" := by decide +kernel
    constructor
    · intro table idColumn ht hi _
      obtain rfl := Option.some.inj (ht.symm.trans htable)
      obtain rfl := Option.some.inj (hi.symm.trans hid)
      decide +kernel
    · intro table ht
      obtain rfl := Option.some.inj (ht.symm.trans htable)
      decide +kernel
  have hruns := (runs_on_described_iff owners "Owner" "findByName" findOwners
    compile_findOwners).mpr (.inr hjoinable)
  exact ⟨hdescribes, hjoinable, hruns village hdescribes⟩

-- Owners that are told apart by their pets: no property asks for a column that would hold these.
def ownersByPet : Schema where
  entities := [
    ⟨"Owner", none, "pet", none, [⟨"name", .scalar .text, none⟩, ⟨"pet", .entity "Pet", none⟩]⟩,
    ⟨"Pet", none, "petId", none, [⟨"petId", .scalar .integer, none⟩]⟩]
  ascending := by decide +kernel
  named := by decide +kernel
  flawless := by decide +kernel

def findOwnersByPet : Query :=
  { findOwners with
    statement := .select {
      outputs := [⟨⟨"owner", "name"⟩, "name"⟩, ⟨⟨"pet", "pet_id"⟩, "pet_pet_id"⟩]
      table := "owner"
      joins := [⟨"pet", "pet", ⟨"pet", "owner"⟩, ⟨"owner", "pet"⟩⟩]
      conditions := [⟨⟨"owner", "name"⟩, ⟨"name", .scalar .text⟩⟩] } }

def emptyVillage : Database where
  tables := [⟨"owner", ["name"], []⟩, ⟨"pet", ["pet_id", "owner"], []⟩]

theorem not_runs_on_described : compile ownersByPet "Owner" "findByName" = .ok findOwnersByPet ∧
    ownersByPet.Describes emptyVillage ∧
    (findOwnersByPet.call .collection emptyVillage some [.text "Ann"]).result =
      .error (.failed (.missingColumn ⟨"owner", "pet"⟩)) :=
  ⟨by decide +kernel, ⟨by decide +kernel, by decide +kernel⟩, by decide +kernel⟩

end Query

end Finder
