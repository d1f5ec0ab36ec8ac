import DomBindings.FileSystem.Access

/-!
# Resolving paths

The place that a path names whether or not something is there: links are replaced by what they lead
to, and beyond the last place that is there the names are taken as they are written.
-/

namespace DomBindings

namespace Place

/-- The place that names lead to where there are no links. -/
def descend (here : Place) : List Text → Place
  | [] => here
  | part :: rest =>
    if Path.staysInPlace part then descend here rest
    else if Path.leadsUp part then descend here.dropLast rest
    else descend (here ++ [part]) rest

end Place

namespace FileTree

/-- Resolves names from a place on, given how a link is resolved: its own place, the place of its
directory and its target. The flag says whether all links lead somewhere. -/
def resolveNames (t : FileTree) (resolveLink : Place → Place → Text → Place × Bool)
    (here : Place) : List Text → Place × Bool
  | [] => (here, true)
  | part :: rest =>
    if Path.staysInPlace part then t.resolveNames resolveLink here rest
    else if Path.leadsUp part then t.resolveNames resolveLink here.dropLast rest
    else
      match t.node? (here ++ [part]) with
      | some (.link target) =>
        match resolveLink (here ++ [part]) here target with
        | (place, true) => t.resolveNames resolveLink place rest
        | (place, false) => (place.descend rest, false)
      | _ => t.resolveNames resolveLink (here ++ [part]) rest

/-- Resolves a link, unless it is one of those that are being resolved; so many links may be. -/
def resolveLink (t : FileTree) : Nat → List Place → Place → Place → Text → Place × Bool
  | 0, _, link, _, _ => (link, false)
  | links + 1, pending, link, directory, target =>
    if pending.contains link then (link, false)
    else
      t.resolveNames (t.resolveLink links (link :: pending)) (startOf directory target)
        (Text.splitOn '/' target)

/-- The place that a path names. A path that ends in a circle of links names none. -/
def resolve (t : FileTree) (p : Path) : Except FileError Place :=
  if hasNull p then .error .nullCharacter
  else
    let place := (t.resolveNames (t.resolveLink (t.nodes.length + 1) []) (t.start p) p.parts).1
    match t.follow place.path with
    | .error .tooManyLinks => .error (.linkLoop place.path.text)
    | _ => .ok place

end FileTree

end DomBindings
