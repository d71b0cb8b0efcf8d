import CqlBridge.Schema.SqlType

/-!
# `CqlBridge.Schema.Column` — the columns of a table and its primary key

A column has a name, the store's type text, a role (partition key, clustering key, regular,
static, or unknown when it was found by reading a result rather than the schema), its output
position and the relational type assigned to it.

The primary key is the partition key columns followed by the clustering columns, each group
in position order; columns of equal rank and position keep the order they came in.
-/

namespace CqlBridge

/-- What part a column plays in its table. -/
inductive ColumnRole where
  | partitionKey | clusteringKey | regular | static
  /-- The role cannot be known, as for columns found by reading a result. -/
  | unknown
  deriving DecidableEq, Repr, Inhabited

namespace ColumnRole

/-- The role of a schema `kind` text; any other text is `unknown`. -/
def ofKind : String → ColumnRole
  | "partition_key" => .partitionKey
  | "clustering" => .clusteringKey
  | "regular" => .regular
  | "static" => .static
  | _ => .unknown

/-- Where columns of a role stand in a table definition: keys first, the rest after. -/
def rank : ColumnRole → Nat
  | .partitionKey => 0
  | .clusteringKey => 1
  | .regular | .static | .unknown => 2

/-- Partition and clustering columns make up the primary key. -/
def isKey : ColumnRole → Bool
  | .partitionKey | .clusteringKey => true
  | _ => false

/-- The role's name, as a schema listing writes it. -/
def name : ColumnRole → String
  | .partitionKey => "PartitionKey"
  | .clusteringKey => "ClusteringKey"
  | .regular => "Regular"
  | .static => "Static"
  | .unknown => "Unknown"

end ColumnRole

/-- A column of a table or of a result. -/
structure ColumnSpec where
  name : String
  /-- The type as the store writes it. -/
  sourceType : String
  role : ColumnRole
  position : Nat
  sqlType : SqlType
  deriving DecidableEq, Repr

/-- The order of key columns: by rank, then by position. -/
def ColumnSpec.keyLE (a b : ColumnSpec) : Bool :=
  a.role.rank < b.role.rank || (a.role.rank == b.role.rank && a.position ≤ b.position)

/-- The names of the primary key columns: partition keys, then clustering keys, each in
position order, ties in input order. -/
def primaryKey (columns : List ColumnSpec) : List String :=
  ((columns.filter (·.role.isKey)).mergeSort ColumnSpec.keyLE).map (·.name)

end CqlBridge
