import WindowActions.Json.Read
import WindowActions.Json.Write

/-!
# Layouts of a JSON text

The compact and the indented text of a value differ in their blanks only. `Json.written` is the text
for any choice of blanks: a layout says which ones stand in front of an item or a field, in front of
a closing bracket, and behind a colon. What reads one layout reads them all.
-/

namespace WindowActions

namespace Json

/-- Blanks alone. -/
def Blank (cs : List Char) : Prop := ∀ c ∈ cs, isSpace c = true

theorem blank_nil : Blank [] := fun _ hc => absurd hc List.not_mem_nil

/-- The blanks of a JSON text, by the number of levels that the place is in. -/
structure Layout where
  gap : Nat → List Char
  behindColon : List Char
  blank_gap : ∀ depth, Blank (gap depth)
  blank_behindColon : Blank behindColon

namespace Layout

def compact : Layout where
  gap _ := []
  behindColon := []
  blank_gap _ := blank_nil
  blank_behindColon := blank_nil

def indented : Layout where
  gap depth := '\n' :: List.replicate (2 * depth) ' '
  behindColon := [' ']
  blank_gap depth := by
    intro c hc
    rcases List.mem_cons.1 hc with rfl | hc
    · rfl
    · rw [List.eq_of_mem_replicate hc]
      rfl
  blank_behindColon := by
    intro c hc
    rw [List.mem_singleton.1 hc]
    rfl

@[simp] theorem gap_compact (depth : Nat) : compact.gap depth = [] := rfl

@[simp] theorem behindColon_compact : compact.behindColon = [] := rfl

@[simp] theorem gap_indented (depth : Nat) :
    indented.gap depth = '\n' :: List.replicate (2 * depth) ' ' := rfl

@[simp] theorem behindColon_indented : indented.behindColon = [' '] := rfl

end Layout

mutual

/-- The text of a value that stands `depth` levels in. -/
def written (l : Layout) (depth : Nat) : Json → List Char
  | .array [] => ['[', ']']
  | .array (item :: items) =>
    '[' :: (l.gap (depth + 1) ++ (item.written l (depth + 1) ++
      (writtenItems l (depth + 1) items ++ (l.gap depth ++ [']']))))
  | .object [] => ['{', '}']
  | .object (⟨name, value⟩ :: fields) =>
    '{' :: (l.gap (depth + 1) ++ ((jsonString name).toList ++ (':' :: (l.behindColon ++
      (value.written l (depth + 1) ++
        (writtenFields l (depth + 1) fields ++ (l.gap depth ++ ['}'])))))))
  | value => value.compact.toList

/-- The text of items behind the first one. -/
def writtenItems (l : Layout) (depth : Nat) : List Json → List Char
  | [] => []
  | item :: items =>
    ',' :: (l.gap depth ++ (item.written l depth ++ writtenItems l depth items))

/-- The text of fields behind the first one. -/
def writtenFields (l : Layout) (depth : Nat) : List (String × Json) → List Char
  | [] => []
  | ⟨name, value⟩ :: fields =>
    ',' :: (l.gap depth ++ ((jsonString name).toList ++ (':' :: (l.behindColon ++
      (value.written l depth ++ writtenFields l depth fields)))))

end

mutual

theorem toList_compact (depth : Nat) :
    ∀ value : Json, value.compact.toList = value.written .compact depth
  | .null | .bool true | .bool false | .integer _ | .real _ | .string _ => by simp [written]
  | .array [] => by simp [written, compact]
  | .array (item :: items) => by
      simp [written, compact, toList_compact (depth + 1) item,
        toList_compactItems (depth + 1) items]
  | .object [] => by simp [written, compact]
  | .object (⟨name, value⟩ :: fields) => by
      simp [written, compact, toList_compact (depth + 1) value,
        toList_compactFields (depth + 1) fields]

theorem toList_compactItems (depth : Nat) :
    ∀ items : List Json, (compactItems items).toList = writtenItems .compact depth items
  | [] => by simp [writtenItems, compactItems]
  | item :: items => by
      simp [writtenItems, compactItems, toList_compact depth item,
        toList_compactItems depth items]

theorem toList_compactFields (depth : Nat) :
    ∀ fields : List (String × Json),
      (compactFields fields).toList = writtenFields .compact depth fields
  | [] => by simp [writtenFields, compactFields]
  | ⟨name, value⟩ :: fields => by
      simp [writtenFields, compactFields, toList_compact depth value,
        toList_compactFields depth fields]

end

mutual

theorem toList_indentedAt (depth : Nat) :
    ∀ value : Json, (value.indentedAt depth).toList = value.written .indented depth
  | .null | .bool true | .bool false | .integer _ | .real _ | .string _ => by
      simp [written, indentedAt]
  | .array [] => by simp [written, indentedAt]
  | .array (item :: items) => by
      simp [written, indentedAt, newline, toList_indentedAt (depth + 1) item,
        toList_indentedItems (depth + 1) items]
  | .object [] => by simp [written, indentedAt]
  | .object (⟨name, value⟩ :: fields) => by
      simp [written, indentedAt, newline, toList_indentedAt (depth + 1) value,
        toList_indentedFields (depth + 1) fields]

theorem toList_indentedItems (depth : Nat) :
    ∀ items : List Json, (indentedItems depth items).toList = writtenItems .indented depth items
  | [] => by simp [writtenItems, indentedItems]
  | item :: items => by
      simp [writtenItems, indentedItems, newline,
        toList_indentedAt depth item, toList_indentedItems depth items]

theorem toList_indentedFields (depth : Nat) :
    ∀ fields : List (String × Json),
      (indentedFields depth fields).toList = writtenFields .indented depth fields
  | [] => by simp [writtenFields, indentedFields]
  | ⟨name, value⟩ :: fields => by
      simp [writtenFields, indentedFields, newline,
        toList_indentedAt depth value, toList_indentedFields depth fields]

end

end Json

end WindowActions
