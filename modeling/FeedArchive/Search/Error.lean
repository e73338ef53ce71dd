import FeedArchive.Database.Row
import FeedArchive.Text.Decimal
import FeedArchive.Time.Instant

/-! # Failures of searching

Failures of a store, and those of a search: what the user got wrong, which another input mends,
and what the store got wrong. -/

namespace FeedArchive

/-- A failure of a store of records. -/
inductive StoreError where
  /-- A statement failed, or what it returned could not be read. -/
  | query (operation : String) (cause : Database.Error)
  /-- The answer did not come in time. -/
  | timeout (operation : String) (after : Span)
  /-- The store is out of service. -/
  | unavailable (reason : String)
  deriving DecidableEq

def StoreError.message : StoreError → String
  | .query operation cause => "データベースクエリエラー: " ++ operation ++ " - " ++ cause.message
  | .timeout operation after =>
    "データベースクエリがタイムアウトしました: " ++ operation ++ "（" ++ after.text ++ "）"
  | .unavailable reason => "ストレージが利用できません: " ++ reason

/-- A failure of a search or of a check for existence. -/
inductive SearchError where
  /-- There is no keyword. -/
  | emptyInput
  /-- There are more keywords than allowed. -/
  | tooManyKeywords (count max : Nat)
  /-- A keyword has more characters than allowed. -/
  | keywordTooLong (keyword : String) (max : Nat)
  /-- A filter has a value that is not allowed. -/
  | invalidFilterValue (cause : InvalidValue)
  /-- A text is no date. -/
  | invalidDate (value : String)
  /-- A text is no truth value. -/
  | invalidBoolean (value : String)
  /-- The store failed. -/
  | storage (cause : StoreError)
  deriving DecidableEq

def SearchError.message : SearchError → String
  | .emptyInput => "キーワードが空です"
  | .tooManyKeywords count max =>
    "キーワードが多すぎます: " ++ count.decimalText ++ "件（上限" ++ max.decimalText ++ "件）"
  | .keywordTooLong keyword max =>
    "キーワード'" ++ keyword ++ "'が最大長" ++ max.decimalText ++ "文字を超えています"
  | .invalidFilterValue cause => cause.message
  | .invalidDate value =>
    "日付形式が不正です: '" ++ value ++ "'（例: '2024-01-01' または '2024-01-01T10:00:00Z'）"
  | .invalidBoolean value =>
    "真偽値が不正です: '" ++ value ++ "'（'true', 'false', '1', '0' のいずれか）"
  | .storage cause => cause.message

/-- The input is at fault, and another one may succeed. -/
def SearchError.isValidation : SearchError → Bool
  | .storage _ => false
  | _ => true

end FeedArchive
