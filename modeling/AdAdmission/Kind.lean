/-! The surfaces an ad can be shown on, and the confirmations its life can bring. Both are written by
    name in records and documents; the order of declaration is the order in which the kinds are
    listed, and it decides between events that tie. -/

namespace AdAdmission

/-! ### Surfaces -/

/-- The surface an ad is shown on. -/
inductive AdKind where
  | notification
  | newTabPageAd
  | inlineContentAd
  | promotedContent
deriving DecidableEq

namespace AdKind

/-- Every surface, in the order of declaration. -/
def all : List AdKind := [notification, newTabPageAd, inlineContentAd, promotedContent]

/-- The name a surface is written by. -/
def name : AdKind → String
  | notification => "notification"
  | newTabPageAd => "new_tab_page_ad"
  | inlineContentAd => "inline_content_ad"
  | promotedContent => "promoted_content"

/-- The surface with the given name. -/
def ofName? (text : String) : Option AdKind := all.find? (fun k => k.name == text)

/-- The place of a surface in the order of declaration. -/
def rank : AdKind → Nat
  | notification => 0
  | newTabPageAd => 1
  | inlineContentAd => 2
  | promotedContent => 3

theorem mem_all (k : AdKind) : k ∈ all := by cases k <;> decide

theorem ofName?_name (k : AdKind) : ofName? k.name = some k := by cases k <;> decide

theorem all_getElem?_rank (k : AdKind) : all[k.rank]? = some k := by cases k <;> rfl

end AdKind

/-! ### Confirmations -/

/-- What happened to an ad. -/
inductive ConfirmationKind where
  | served
  | viewed
  | clicked
  | dismissed
  | landed
  | conversion
deriving DecidableEq

namespace ConfirmationKind

/-- Every confirmation, in the order of declaration. -/
def all : List ConfirmationKind := [served, viewed, clicked, dismissed, landed, conversion]

/-- The name a confirmation is written by. -/
def name : ConfirmationKind → String
  | served => "served"
  | viewed => "viewed"
  | clicked => "clicked"
  | dismissed => "dismissed"
  | landed => "landed"
  | conversion => "conversion"

/-- The confirmation with the given name. -/
def ofName? (text : String) : Option ConfirmationKind := all.find? (fun k => k.name == text)

/-- The place of a confirmation in the order of declaration. -/
def rank : ConfirmationKind → Nat
  | served => 0
  | viewed => 1
  | clicked => 2
  | dismissed => 3
  | landed => 4
  | conversion => 5

theorem ofName?_name (k : ConfirmationKind) : ofName? k.name = some k := by cases k <;> decide

end ConfirmationKind

/-! ### Names that denote no kind -/

/-- Why a name was refused. -/
inductive KindError where
  | unknownAdKind (text : String)
  | unknownConfirmationKind (text : String)
deriving DecidableEq

/-- The wording of a refused name. -/
def KindError.message : KindError → String
  | unknownAdKind text => "unknown ad kind \"" ++ text ++ "\""
  | unknownConfirmationKind text => "unknown confirmation kind \"" ++ text ++ "\""

/-- The surface with the given name, or the reason why there is none. -/
def AdKind.parse (text : String) : Except KindError AdKind :=
  match AdKind.ofName? text with
  | some k => .ok k
  | none => .error (.unknownAdKind text)

/-- The confirmation with the given name, or the reason why there is none. -/
def ConfirmationKind.parse (text : String) : Except KindError ConfirmationKind :=
  match ConfirmationKind.ofName? text with
  | some k => .ok k
  | none => .error (.unknownConfirmationKind text)

/-! ### Which surface can bring which confirmation -/

/-- A notification can bring every confirmation. A new tab page ad and an inline content ad cannot be
    dismissed and have no landing, and promoted content cannot be dismissed. -/
def AdKind.supports : AdKind → ConfirmationKind → Bool
  | .notification, _ => true
  | .newTabPageAd, k | .inlineContentAd, k => k != .dismissed && k != .landed
  | .promotedContent, k => k != .dismissed

theorem AdKind.supports_viewed (k : AdKind) : k.supports .viewed = true := by cases k <;> rfl

end AdAdmission
