/-!
# Trees of literals

Some literals as one tree, in which literals that begin alike share the way from the root.  The
order of the literals counts: a branch is looked for only among those that were added since a
literal ended at the same place, so that an earlier literal comes before a later, longer one.
-/

namespace MessageConstraints

namespace Pattern

/-- What follows a place of a tree, in order: branches by their first byte, and marks where a
literal ends. -/
inductive LiteralTree where
  | done
  | branch (byte : Nat) (child rest : LiteralTree)
  | mark (rest : LiteralTree)
deriving Repr, DecidableEq

namespace LiteralTree

/-- Whether a literal ends at the place. -/
def hasMark : LiteralTree → Bool
  | done => false
  | branch _ _ rest => rest.hasMark
  | mark _ => true

/-- Whether something follows the place. -/
def hasBranch : LiteralTree → Bool
  | done => false
  | branch .. => true
  | mark rest => rest.hasBranch

/-- Puts a mark after all that is there. -/
def close : LiteralTree → LiteralTree
  | done => mark done
  | branch byte child rest => branch byte child rest.close
  | mark rest => mark rest.close

/-- Changes the branch with a byte; it is looked for after the last mark, and put into its place
by the order of bytes if it is not there. -/
def update (byte : Nat) (change : LiteralTree → LiteralTree) : LiteralTree → LiteralTree
  | done => branch byte (change done) done
  | mark rest => mark (rest.update byte change)
  | branch other child rest =>
    if rest.hasMark then branch other child (rest.update byte change)
    else if byte = other then branch other (change child) rest
    else if byte < other then branch byte (change done) (branch other child rest)
    else branch other child (rest.update byte change)

/-- Adds a literal. -/
def insert : List Nat → LiteralTree → LiteralTree
  | [], tree => if tree.hasMark && !tree.hasBranch then tree else tree.close
  | byte :: bytes, tree => tree.update byte (insert bytes)

/-- The tree of some literals. -/
def ofLiterals (literals : List (List Nat)) : LiteralTree :=
  literals.foldl (fun tree literal => insert literal tree) done

end LiteralTree

end Pattern

end MessageConstraints
