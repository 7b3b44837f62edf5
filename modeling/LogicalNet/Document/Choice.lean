import LogicalNet.Document.Plain

/-!
# Choices

A choice is written as its name, or as a record with one entry: its name and its
content.  `mapChoices` changes the contents of all choices in a document, whatever
they are choices of; the two ways of writing contents are two such changes.
-/

namespace LogicalNet
namespace Document

/-- The name of a choice without content: a text, or a record whose one entry holds nothing. -/
def choice? : Document → Option String
  | record [(name, content)] => if content.isNull then some name else none
  | d => d.scalarText?

/-! ## Contents of choices -/

mutual

def mapChoices (f : Document → Document) : Document → Document
  | list items => list (mapChoicesList f items)
  | record entries => record (mapChoicesEntries f (entries.length == 1) entries)
  | d => d

def mapChoicesList (f : Document → Document) : List Document → List Document
  | [] => []
  | d :: rest => mapChoices f d :: mapChoicesList f rest

/-- An entry that stands `alone` in its record may be a choice. -/
def mapChoicesEntries (f : Document → Document) (alone : Bool) :
    List (String × Document) → List (String × Document)
  | [] => []
  | (name, d) :: rest =>
      let content := mapChoices f d
      (name, if alone then f content else content) :: mapChoicesEntries f alone rest

end

mutual

/-- A change that leaves every content alone leaves the document alone. -/
theorem mapChoices_id (d : Document) : mapChoices (fun d => d) d = d := by
  cases d with
  | list items =>
      simp [mapChoices, mapChoicesList_id items]
  | record entries =>
      simp [mapChoices, mapChoicesEntries_id _ entries]
  | _ =>
      simp [mapChoices]

theorem mapChoicesList_id (items : List Document) :
    mapChoicesList (fun d => d) items = items := by
  cases items with
  | nil =>
      rfl
  | cons d rest =>
      simp [mapChoicesList, mapChoices_id d, mapChoicesList_id rest]

theorem mapChoicesEntries_id (alone : Bool) (entries : List (String × Document)) :
    mapChoicesEntries (fun d => d) alone entries = entries := by
  cases entries with
  | nil =>
      rfl
  | cons e rest =>
      simp [mapChoicesEntries, mapChoices_id e.2, mapChoicesEntries_id alone rest]

end

/-- An empty record says no more than nothing. -/
def looseContent : Document → Document
  | record [] => null
  | d => d

/-- The fields of a content are named. -/
def namedContent : Document → Document
  | list _ => unreadable
  | d => d

end Document
end LogicalNet
