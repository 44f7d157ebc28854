import BuildRegistry.Json

/-
  Pages of a listing. A page request names the last entry of the page before it; the next page
  starts after that entry. A page is made from one row more than it may hold, which only tells
  that there is another page.
-/

namespace BuildRegistry

structure PageRequest where
  cursor : Option String
  limit : Option Int
deriving DecidableEq, Repr

namespace PageRequest

def first : PageRequest := ⟨none, none⟩

def defaultLimit : Int := 20

def maxLimit : Int := 100

/-- The limit asked for, brought between 1 and the maximum. -/
def pageSize (p : PageRequest) : Nat :=
  (max 1 (min maxLimit (p.limit.getD defaultLimit))).toNat

/-- The entry to start after; an empty cursor is none. -/
def after (p : PageRequest) : Option String := p.cursor.filter (· ≠ "")

end PageRequest

structure Page (α : Type) where
  data : List α
  hasMore : Bool
  nextCursor : Option String
deriving DecidableEq, Repr

namespace Page

/-- The first `size` rows as a page; its cursor is that of the last row kept. -/
def ofRows {α : Type} (size : Nat) (cursorOf : α → String) (rows : List α) : Page α :=
  let data := rows.take size
  let hasMore := decide (size < rows.length)
  ⟨data, hasMore, if hasMore then data.getLast?.map cursorOf else none⟩

def map {α β : Type} (f : α → β) (p : Page α) : Page β := ⟨p.data.map f, p.hasMore, p.nextCursor⟩

def json {α : Type} (item : α → Json) (p : Page α) : Json :=
  .object [("data", .arr (p.data.map item)), ("hasMore", .bool p.hasMore),
    ("nextCursor", .text? p.nextCursor)]

end Page

end BuildRegistry
