import PgKinetic.Lib.Text

/-!
# Routing vocabulary and shard hints

The roles and reasons that transaction tracking records, and `extract_shard_hint`: the shard a
statement names in a leading comment `pg-kinetic: shard=...` (or `tenant=`, `route=`).
-/

namespace PgKinetic

/-- `BackendRole`. -/
inductive BackendRole where
  | primary
  | replica
  | unknown
  deriving DecidableEq, Repr

/-- `RoutingReason`. -/
inductive RoutingReason where
  | off
  | primaryOnlyMode
  | preferReplicaMode
  | requireReplicaMode
  | writeQuery
  | readOnlyQuery
  | readCandidateQuery
  | transactionControl
  | sessionMutation
  | copy
  | unknownQuery
  | freshnessRequired
  | replicaStale
  | replicaUnavailable
  | fallbackPrimary
  | fallbackReject
  | fallbackWait
  deriving DecidableEq, Repr

/-- `ShardId`: a nonempty text (`ShardId::new` refuses the empty one). -/
structure ShardId where
  value : Text
  nonempty : value ≠ []
  deriving DecidableEq

/-- `ShardId::new`. -/
def ShardId.new (value : Text) : Option ShardId :=
  if h : value ≠ [] then some ⟨value, h⟩ else none

/-- `ShardHint`. -/
inductive ShardHint where
  | none
  | shard (value : Text)
  | tenant (value : Text)
  | route (value : Text)
  | unknown
  deriving DecidableEq

namespace ShardHint

/-- `is_hint_value`. -/
def isHintValue (value : Text) : Bool :=
  !value.isEmpty && value.all fun c => c.isAlphanum || c == '_' || c == '-' || c == '.'

/-- `parse_hint_comment`. -/
def parseHintComment (comment : Text) : Option ShardHint :=
  match comment.trim.stripLeading "pg-kinetic:" with
  | .none => .none
  | some body =>
    match Text.splitOnce '=' body.trim with
    | .none => .none
    | some (kind, value) =>
      let kind := kind.trim
      let value := value.trim
      if !isHintValue value then some .unknown
      else if kind = "shard" then some (.shard value)
      else if kind = "tenant" then some (.tenant value)
      else if kind = "route" then some (.route value)
      else some .unknown

/-- `extract_shard_hint`: the first hint among the leading comments. Every comment shortens the
text, so its length bounds the loop; `sawComment` is `saw_comment`. -/
def extract (sql : Text) : ShardHint := go (sql.length + 1) false sql.trimStart
where
  noHint (sawComment : Bool) : ShardHint := if sawComment then .unknown else .none
  go : Nat → Bool → Text → ShardHint
    | 0, sawComment, _ => noHint sawComment
    | n + 1, sawComment, rest =>
      match rest.stripLeading "/*" with
      | some afterComment =>
        match Text.splitAtFirst "*/" afterComment with
        | .none => .unknown
        | some (comment, rest) => (parseHintComment comment.trim).getD (go n true rest.trimStart)
      | .none =>
        match rest.stripLeading "--" with
        | some afterComment =>
          match Text.splitAtFirst "\n" afterComment with
          | some (comment, rest) => (parseHintComment comment.trim).getD (go n true rest.trimStart)
          | .none => (parseHintComment afterComment.trim).getD (noHint true)
        | .none => noHint sawComment

/-- `transaction_shard_id_from_sql`. -/
def transactionShardId (sql : Text) : Option ShardId :=
  match extract sql with
  | .shard value | .tenant value | .route value => ShardId.new value
  | .none | .unknown => Option.none

end ShardHint

end PgKinetic
