import NanAdapter.Json.Fault

/-! Documents. A document of a whole text is a `Json` value; a text that breaks off, or that holds a
token which cannot be used, still has a document, with the fault standing where a reader would meet
it. -/

namespace NanAdapter

/-- A part of a text that cannot be used. It is blamed when it is read, when it is read as a name,
and, if the text cannot be followed past it, also when it is only passed over. -/
structure Flaw (φ : Type) where
  reading : φ
  naming : φ
  passing : Option φ
  deriving DecidableEq, Repr

namespace Flaw

/-- The text cannot be followed any further. -/
def dead (fault : φ) : Flaw φ := ⟨fault, fault, some fault⟩

end Flaw

inductive Key (φ : Type) where
  | name (text : String)
  | flawed (flaw : Flaw φ)
  deriving DecidableEq, Repr

mutual
inductive Doc (φ : Type) where
  | null
  | bool (value : Bool)
  | int (value : Int)
  | real (value : Binary64)
  | str (text : String)
  | arr (items : Items φ)
  | obj (members : Members φ)
  | flawed (flaw : Flaw φ)

/-- The elements of an array, up to its end or to where they cannot be used any further. -/
inductive Items (φ : Type) where
  | done
  | broken (flaw : Flaw φ)
  | cons (head : Doc φ) (rest : Items φ)

/-- The members of an object, up to its end or to where they cannot be used any further. -/
inductive Members (φ : Type) where
  | done
  | broken (flaw : Flaw φ)
  | cons (key : Key φ) (value : Doc φ) (rest : Members φ)
end

instance : Inhabited (Doc φ) := ⟨.null⟩

/-- A document without faults. -/
abbrev Json := Doc Empty

def Doc.glimpse : Doc φ → Glimpse
  | .null | .flawed _ => .null
  | .bool value => .boolean value
  | .int value => .integer value
  | .real value => .real value
  | .str text => .text text
  | .arr _ => .sequence
  | .obj _ => .map

def Items.ofList : List (Doc φ) → Items φ
  | [] => .done
  | head :: rest => .cons head (ofList rest)

/-- The elements that are there. -/
def Items.toList : Items φ → List (Doc φ)
  | .done | .broken _ => []
  | .cons head rest => head :: rest.toList

def Members.ofList : List (String × Doc φ) → Members φ
  | [] => .done
  | (key, value) :: rest => .cons (.name key) value (ofList rest)

/-- The members that have a name. -/
def Members.toList : Members φ → List (String × Doc φ)
  | .done | .broken _ => []
  | .cons (.name key) value rest => (key, value) :: rest.toList
  | .cons (.flawed _) _ rest => rest.toList

def Items.length : Items φ → Nat
  | .done | .broken _ => 0
  | .cons _ rest => rest.length + 1

mutual
/-- What is blamed when a document is only passed over. Depth, size of numbers and halves of pairs do
not matter there. -/
def Doc.passing? : Doc φ → Option φ
  | .arr items => items.passing?
  | .obj members => members.passing?
  | .flawed flaw => flaw.passing
  | _ => none

def Items.passing? : Items φ → Option φ
  | .done => none
  | .broken flaw => flaw.passing
  | .cons head rest => head.passing?.or rest.passing?

def Members.passing? : Members φ → Option φ
  | .done => none
  | .broken flaw => flaw.passing
  | .cons (.name _) value rest => value.passing?.or rest.passing?
  | .cons (.flawed flaw) value rest => (flaw.passing.or value.passing?).or rest.passing?
end

@[simp] theorem Items.toList_ofList (items : List (Doc φ)) : (ofList items).toList = items := by
  induction items with
  | nil => rfl
  | cons head rest ih => simp [ofList, toList, ih]

@[simp] theorem Members.toList_ofList (members : List (String × Doc φ)) :
    (ofList members).toList = members := by
  induction members with
  | nil => rfl
  | cons member rest ih => simp [ofList, toList, ih]

namespace Json

def array (items : List Json) : Json := .arr (.ofList items)

def object (members : List (String × Json)) : Json := .obj (.ofList members)

def nat (n : Nat) : Json := .int n

/-- The last member of that name. -/
def member? (json : Json) (name : String) : Option Json :=
  match json with
  | .obj members => (members.toList.reverse.find? fun (key, _) => key = name).map (·.2)
  | _ => none

end Json

private def insertMember (member : String × Json) : List (String × Json) → List (String × Json)
  | [] => [member]
  | other :: rest =>
    if member.1 < other.1 then member :: other :: rest
    else if member.1 = other.1 then other :: rest
    else other :: insertMember member rest

mutual
/-- The same document with the members of every object in ascending order of their names; of several
members with one name the last is kept. -/
def Doc.sorted : Json → Json
  | .arr items => .arr items.sorted
  | .obj members => .obj (.ofList members.sorted)
  | json => json

def Items.sorted : Items Empty → Items Empty
  | .done => .done
  | .broken flaw => .broken flaw
  | .cons head rest => .cons head.sorted rest.sorted

def Members.sorted : Members Empty → List (String × Json)
  | .done => []
  | .broken flaw => nomatch flaw.reading
  | .cons (.name key) value rest =>
    let others := rest.sorted
    if others.any (·.1 = key) then others else insertMember (key, value.sorted) others
  | .cons (.flawed flaw) _ _ => nomatch flaw.reading
end

end NanAdapter
