import MappedSql.Value.Print

namespace MappedSql

inductive FeedItem
  | tag (kind : String)
  | number (n : Int)
  | text (s : String)
  deriving DecidableEq, Repr

namespace Value

mutual

def feed : Value → List FeedItem
  | null => [.tag "null"]
  | bool value => [.tag "bool", .number (if value then 1 else 0)]
  | int value => [.tag "int", .number value.toInt]
  | float value =>
      [.tag "float", .number (if value.isZero then Binary64.zero else value).bits.toNat]
  | text value => [.tag "text", .text value]
  | timestamp value =>
      [.tag "timestamp", .number value.year, .number value.month, .number value.day,
        .number value.hour, .number value.minute, .number value.second, .number value.nano]
  | json value => [.tag "json", .text value.compact]
  | blob bytes => .tag "blob" :: .number bytes.length :: bytes.map fun b => .number b.toNat
  | list items => .tag "list" :: .number items.length :: feedItems items
  | map fields => .tag "map" :: .number fields.length :: feedFields fields
  | record typeName fields =>
      .tag "record" :: .text typeName :: .number fields.length :: feedFields fields

def feedItems : List Value → List FeedItem
  | [] => []
  | item :: rest => feed item ++ feedItems rest

def feedFields : List (String × Value) → List FeedItem
  | [] => []
  | (name, value) :: rest => .text name :: feed value ++ feedFields rest

end

end Value

/-- What a key keeps of the hashes of its parts, in arithmetic that wraps. -/
structure KeyDigest where
  code : Int64
  checksum : Int64
  count : Nat
  deriving DecidableEq, Repr

namespace KeyDigest

def empty : KeyDigest := ⟨17, 0, 0⟩

def update (digest : KeyDigest) (hash : Int64) : KeyDigest where
  code := 37 * digest.code + hash * Int64.ofNat (digest.count + 1)
  checksum := digest.checksum + hash
  count := digest.count + 1

end KeyDigest

structure CacheKey where
  parts : List Value

namespace CacheKey

def feed (key : CacheKey) : List (List FeedItem) :=
  key.parts.map Value.feed

def same (a b : CacheKey) : Bool :=
  Value.sameItems a.parts b.parts && a.feed == b.feed

def digest (hash : List FeedItem → Int64) (key : CacheKey) : KeyDigest :=
  key.feed.foldl (fun digest fed => digest.update (hash fed)) .empty

def sameBy (hash : List FeedItem → Int64) (a b : CacheKey) : Bool :=
  a.digest hash == b.digest hash && Value.sameItems a.parts b.parts

def tail? (key : CacheKey) : Option String :=
  if key.parts.isEmpty then none
  else some (String.intercalate ":" (key.parts.map Value.display))

end CacheKey

end MappedSql
