import FormData.Boundary.Generated
import FormData.Part.Request

/-!
# Session Steps

What can be asked for in a session.

Bodies, parts and traversals are kept under names that the caller chooses, in
three tables of their own. A step names what it works on, and where it makes
something, the name to keep it under.

## Main definitions

* `TokenChoice`: Where the token of a new body comes from.
* `Step`: One thing to do.
-/

namespace FormData

/-- Where the token of a new body comes from. -/
inductive TokenChoice where
  /-- The caller gives it, and it has to be acceptable. -/
  | given (token : String)
  /-- It is made from random draws. -/
  | drawn (draws : Draws)

/-- One thing to do in a session. -/
inductive Step where
  /-- Begin a body. -/
  | beginBody (id : String) (token : TokenChoice)
  /-- Make a part to be shared. -/
  | makePart (id : String) (request : PartRequest)
  /-- Make a part, put it into a body, and keep the handle. -/
  | addNew (id body : String) (request : PartRequest)
  /-- Put a shared part into a body. -/
  | addShared (body part : String)
  /-- Take a part out of a body. -/
  | removePart (body part : String)
  /-- Look at a body. -/
  | viewBody (body : String)
  /-- Look at a part. -/
  | viewPart (part : String)
  /-- Release a part. -/
  | releasePart (part : String)
  /-- Begin a traversal of a body. -/
  | iterate (id body : String)
  /-- Ask for a piece or nothing. -/
  | next (traversal : String)
  /-- Ask for a piece or a fault. -/
  | nextChunk (traversal : String)
  /-- Ask for a frame. -/
  | poll (traversal : String)
  /-- Ask for so many pieces. -/
  | take (traversal : String) (count : Nat)
  /-- Ask for all pieces that are left. -/
  | drain (traversal : String)
  /-- Look at a traversal. -/
  | viewTraversal (traversal : String)
  /-- Close a traversal. -/
  | closeTraversal (traversal : String)
  /-- Write a body out with a traversal of its own. -/
  | encode (body : String)
  /-- Let go of a body. -/
  | dropBody (body : String)
  /-- Let go of a part. Bodies and traversals that hold it keep it. -/
  | dropPart (part : String)
  /-- Let go of a traversal, which closes it. -/
  | dropTraversal (traversal : String)
  /-- Change the files that later parts are made from. -/
  | changeFiles (changes : List FileTree.Change)

end FormData
