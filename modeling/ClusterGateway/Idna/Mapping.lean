import ClusterGateway.Idna.MappingRows

/-! # Mapping of characters in domain names

Before a domain name is looked at, each of its characters is kept, dropped, replaced or found to be
refused. Among the replacements are the small letters for the capital ones.
-/

namespace ClusterGateway.Idna

/-- What becomes of a character of a domain name. -/
inductive Mapping where
  | kept
  | dropped
  | replaced (others : List Char)
  /-- No domain name may hold it. -/
  | refused
deriving DecidableEq, Repr

/-- The character that takes the place of another, where one does: rows hold a character and its
replacement, or the first and last of a run, the step within the run and the replacement of the
first. -/
def Rows.replacement? (rows : Rows) (c : Char) : Option Char :=
  match rows.last? c with
  | some [first, target] => if c.toNat = first then some (Char.ofNat target) else none
  | some [first, last, step, target] =>
    if c.toNat ≤ last ∧ (c.toNat - first) % step = 0 then
      some (Char.ofNat (target + (c.toNat - first)))
    else none
  | _ => none

/-- What becomes of a character of a domain name. -/
def mapping (c : Char) : Mapping :=
  if refusedRows.covers c then .refused
  else if ignoredRows.covers c then .dropped
  else
    match replacedRows.replacement? c with
    | some other => .replaced [other]
    | none =>
      match spelledRows.entryOf? c with
      | some others => .replaced (others.map Char.ofNat)
      | none => .kept

/-- A text with all its characters mapped, unless one is refused. -/
def mappedBy? (mapping : Char → Mapping) : List Char → Option (List Char)
  | [] => some []
  | c :: rest =>
    match mapping c with
    | .kept => (mappedBy? mapping rest).map (c :: ·)
    | .dropped => mappedBy? mapping rest
    | .replaced others => (mappedBy? mapping rest).map (others ++ ·)
    | .refused => none

@[inherit_doc mappedBy?] def mapped? (text : List Char) : Option (List Char) :=
  mappedBy? mapping text

/-- Whether mapping leaves a character as it is. -/
def isStable (c : Char) : Bool := mapping c = .kept

end ClusterGateway.Idna
