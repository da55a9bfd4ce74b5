import SelectionAlgebra.Text.Blank

/-!
What the lists of a criterion mean, and which entities of a dataset it restricts.
-/

namespace SelectionAlgebra

inductive Content where
  /-- Ids from the dataset's array of global ids. -/
  | globalIds
  /-- Ids assigned by the application. -/
  | pedigreeIds
  /-- Values of named arrays of the dataset. -/
  | values
  /-- Positions in the dataset. -/
  | indices
  /-- Eight corners of a view frustum. -/
  | frustum
  /-- Points in space. -/
  | locations
  /-- Ranges over named arrays of the dataset. -/
  | thresholds
  /-- Numbers of blocks. -/
  | blocks
  /-- Paths of blocks. -/
  | blockSelectors
  /-- A query in words. -/
  | query
  /-- Whatever the caller makes of it. -/
  | user
deriving DecidableEq, Inhabited

inductive Entity where
  | cell
  | point
  | field
  | vertex
  | edge
  | row
deriving DecidableEq, Inhabited

inductive KindError where
  | unknownContent (name : String)
  | unknownEntity (name : String)
deriving DecidableEq

def KindError.message : KindError → String
  | unknownContent name => s!"Unknown content type: {name}"
  | unknownEntity name => s!"Unknown field type: {name}"

/-- Whether a text is the name, blanks around it and the case of ASCII letters aside. -/
def isSpelling (text name : String) : Bool :=
  (Text.trim text.toList).map Char.toLower == name.toList.map Char.toLower

namespace Content

def all : List Content :=
  [globalIds, pedigreeIds, values, indices, frustum, locations, thresholds, blocks,
    blockSelectors, query, user]

def name : Content → String
  | globalIds => "GLOBALIDS"
  | pedigreeIds => "PEDIGREEIDS"
  | values => "VALUES"
  | indices => "INDICES"
  | frustum => "FRUSTUM"
  | locations => "LOCATIONS"
  | thresholds => "THRESHOLDS"
  | blocks => "BLOCKS"
  | blockSelectors => "BLOCK_SELECTORS"
  | query => "QUERY"
  | user => "USER"

def tag : Content → String
  | globalIds => "GlobalIds"
  | pedigreeIds => "PedigreeIds"
  | values => "Values"
  | indices => "Indices"
  | frustum => "Frustum"
  | locations => "Locations"
  | thresholds => "Thresholds"
  | blocks => "Blocks"
  | blockSelectors => "BlockSelectors"
  | query => "Query"
  | user => "User"

def standard : Content := indices

def parse (text : String) : Except KindError Content :=
  match all.find? fun content => isSpelling text content.name with
  | some content => .ok content
  | none => .error (.unknownContent text)

def supportsUnion : Content → Bool
  | globalIds | pedigreeIds | values | indices | locations | thresholds | blocks => true
  | frustum | blockSelectors | query | user => false

def supportsDifference : Content → Bool
  | globalIds | indices | pedigreeIds => true
  | values | frustum | locations | thresholds | blocks | blockSelectors | query | user => false

def pairsByName : Content → Bool
  | values | thresholds => true
  | globalIds | pedigreeIds | indices | frustum | locations | blocks | blockSelectors | query
  | user => false

def comparesNames : Content → Bool
  | values | pedigreeIds | thresholds => true
  | globalIds | indices | frustum | locations | blocks | blockSelectors | query | user => false

end Content

namespace Entity

def all : List Entity :=
  [cell, point, field, vertex, edge, row]

def name : Entity → String
  | cell => "CELL"
  | point => "POINT"
  | field => "FIELD"
  | vertex => "VERTEX"
  | edge => "EDGE"
  | row => "ROW"

def tag : Entity → String
  | cell => "Cell"
  | point => "Point"
  | field => "Field"
  | vertex => "Vertex"
  | edge => "Edge"
  | row => "Row"

def standard : Entity := cell

def parse (text : String) : Except KindError Entity :=
  match all.find? fun entity => isSpelling text entity.name with
  | some entity => .ok entity
  | none => .error (.unknownEntity text)

end Entity

end SelectionAlgebra
