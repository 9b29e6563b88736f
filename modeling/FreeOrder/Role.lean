namespace FreeOrder

/-- What a term contributes to its sentence. -/
inductive Role
  | verb
  | directObject
deriving DecidableEq, Repr

namespace Role

def marker : Role → String
  | verb => "verb"
  | directObject => "direct-object"

/-- The one-letter marker of the role. -/
def terseMarker : Role → String
  | verb => "v"
  | directObject => "o"

/-- The role that has the text as its full or its terse marker. -/
def ofMarker? (text : String) : Option Role :=
  [verb, directObject].find? fun role => text == role.marker || text == role.terseMarker

theorem ofMarker?_marker (role : Role) : ofMarker? role.marker = some role := by
  cases role <;> decide

theorem ofMarker?_terseMarker (role : Role) : ofMarker? role.terseMarker = some role := by
  cases role <;> decide

theorem ofMarker?_eq_some_iff {text : String} {role : Role} :
    ofMarker? text = some role ↔ text = role.marker ∨ text = role.terseMarker := by
  constructor
  · intro h
    simpa using List.find?_some h
  · rintro (rfl | rfl)
    · exact ofMarker?_marker role
    · exact ofMarker?_terseMarker role

end Role

end FreeOrder
