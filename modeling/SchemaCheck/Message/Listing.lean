import SchemaCheck.Message.Codec
import SchemaCheck.Rule

/-!
# The messages of a listing

Rules and categories are listed page by page: a request names the size of a page and a token for
where it starts, and the answer gives the token of the next page, empty after the last.
-/

namespace SchemaCheck

/-- The request for a page of a listing. -/
structure PageMessage where
  /-- The size of the page; zero leaves it to the provider. -/
  pageSize : UInt32 := 0
  pageToken : String := ""
  deriving DecidableEq, Repr

/-- Requests for a page. -/
def PageMessage.codec : Codec PageMessage :=
  .record
    (.cons { name := "page_size", codec := .uint32, default? := some 0 } <|
      .cons { name := "page_token", codec := .string, default? := some "" } .nil)
    (fun (pageSize, pageToken, ()) => ⟨pageSize, pageToken⟩)
    (fun m => (m.pageSize, m.pageToken, ()))

/-- A page of a listing. -/
structure PageReply (α : Type) where
  nextPageToken : String := ""
  entries : List α := []
  deriving DecidableEq, Repr

/-- Pages whose entries stand under the given name. -/
def PageReply.codec {α : Type} (name : String) (entry : Codec α) : Codec (PageReply α) :=
  .record
    (.cons { name := "next_page_token", codec := .string, default? := some "" } <|
      .cons { name := name, codec := .list entry, default? := some [] } .nil)
    (fun (nextPageToken, entries, ()) => ⟨nextPageToken, entries⟩)
    (fun r => (r.nextPageToken, r.entries, ()))

/-- Types of rules. -/
def RuleType.codec : Codec RuleType := .enumeration [.lint, .breaking] RuleType.name

/-- Rules as a provider describes them. -/
def RuleEntry.codec : Codec RuleEntry :=
  .record
    (.cons { name := "id", codec := .string } <|
      .cons { name := "category_ids", codec := .list .string, default? := some [] } <|
      .cons { name := "default", codec := .bool, default? := some false } <|
      .cons { name := "purpose", codec := .string } <|
      .cons { name := "type", codec := RuleType.codec } <|
      .cons { name := "deprecated", codec := .bool, default? := some false } <|
      .cons { name := "replacement_ids", codec := .list .string, default? := some [] } .nil)
    (fun (id, categoryIds, isDefault, purpose, type, deprecated, replacementIds, ()) =>
      ⟨id, categoryIds, isDefault, purpose, type, deprecated, replacementIds⟩)
    (fun r => (r.id, r.categoryIds, r.isDefault, r.purpose, r.type, r.deprecated,
      r.replacementIds, ()))

/-- Categories. -/
def Category.codec : Codec Category :=
  .record
    (.cons { name := "id", codec := .string } <|
      .cons { name := "purpose", codec := .string } <|
      .cons { name := "deprecated", codec := .bool, default? := some false } <|
      .cons { name := "replacement_ids", codec := .list .string, default? := some [] } .nil)
    (fun (id, purpose, deprecated, replacementIds, ()) => ⟨id, purpose, deprecated, replacementIds⟩)
    (fun c => (c.id, c.purpose, c.deprecated, c.replacementIds, ()))

/-- A page of rules. -/
abbrev RulesReply := PageReply RuleEntry

/-- A page of categories. -/
abbrev CategoriesReply := PageReply Category

/-- Pages of rules. -/
def rulesReplyCodec : Codec RulesReply := PageReply.codec "rules" RuleEntry.codec

/-- Pages of categories. -/
def categoriesReplyCodec : Codec CategoriesReply := PageReply.codec "categories" Category.codec

end SchemaCheck
