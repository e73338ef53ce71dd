import FeedArchive.Config
import FeedArchive.Program.Basic

/-! # Setting the database up

The tables are created by migrations, of which the database keeps a record. `migrate` checks the
record before it applies anything: a migration that broke off comes first, then one that is not
known here, then one whose script has changed since. -/

namespace FeedArchive

/-- A script under a version. -/
structure Migration where
  version : Nat
  script : String

/-- The tables of sources and articles with their indices. -/
def createTables : Migration where
  version := 20250801000000
  script := "-- 配信元
CREATE TABLE IF NOT EXISTS sources (
    id BIGSERIAL PRIMARY KEY,
    name TEXT NOT NULL,
    feed_url TEXT NOT NULL UNIQUE,
    source_type TEXT NOT NULL DEFAULT 'RSS'
        CHECK (source_type IN ('RSS', 'Webflow', 'NextJS', 'Remix')),
    active BOOLEAN NOT NULL DEFAULT TRUE,
    last_crawled_at TIMESTAMPTZ
);

-- 記事（urlで一意）
CREATE TABLE IF NOT EXISTS articles (
    id BIGSERIAL PRIMARY KEY,
    source_id BIGINT NOT NULL REFERENCES sources(id) ON DELETE CASCADE,
    title TEXT NOT NULL,
    url TEXT NOT NULL UNIQUE,
    summary TEXT NOT NULL DEFAULT '',
    published_at TIMESTAMPTZ NOT NULL,
    created_at TIMESTAMPTZ NOT NULL DEFAULT NOW()
);

CREATE INDEX IF NOT EXISTS idx_articles_source_id ON articles (source_id);
CREATE INDEX IF NOT EXISTS idx_articles_published_at ON articles (published_at DESC, id DESC);
CREATE INDEX IF NOT EXISTS idx_sources_active ON sources (active);
"

/-- The migrations in the order in which they are applied. -/
def migrations : List Migration := [createTables]

/-- A failure of migrating. -/
inductive MigrationError where
  /-- A migration broke off when it was applied. -/
  | incomplete (version : Nat)
  /-- A migration on record is not known here. -/
  | unknown (version : Nat)
  /-- A migration on record has another script here. -/
  | changed (version : Nat)
  /-- A script failed. -/
  | script (version : Nat) (cause : Database.Error)
  /-- The transaction of a script could not be begun or committed. -/
  | transaction (cause : Database.Error)
  deriving DecidableEq

def MigrationError.message : MigrationError → String
  | .incomplete v =>
    "migration " ++ v.decimalText ++
      " is partially applied; fix and remove row from `_sqlx_migrations` table"
  | .unknown v =>
    "migration " ++ v.decimalText ++
      " was previously applied but is missing in the resolved migrations"
  | .changed v =>
    "migration " ++ v.decimalText ++ " was previously applied but has been modified"
  | .script v cause => "while executing migration " ++ v.decimalText ++ ": " ++ cause.message
  | .transaction cause => "while executing migrations: " ++ cause.message

/-- A failure of setting the database up. -/
inductive SetupError where
  | config (cause : ConfigError)
  | connection (reason : String)
  | migration (cause : MigrationError)
  deriving DecidableEq

def SetupError.message : SetupError → String
  | .config cause => cause.message
  | .connection reason => "データベース接続エラー: " ++ reason
  | .migration cause => "データベースマイグレーションエラー: " ++ cause.message

/-- What is wrong with the record of the database, if the known migrations are these. -/
def recordFault? (known : List Migration) (applied : List AppliedMigration) :
    Option MigrationError :=
  match applied.find? (!·.complete), applied.find? fun a => !known.any (·.version == a.version) with
  | some a, _ => some (.incomplete a.version)
  | none, some a => some (.unknown a.version)
  | none, none => none

/-- Applies a migration in a transaction of its own. -/
def Migration.apply (m : Migration) : Attempt MigrationError Unit :=
  Database.transaction MigrationError.transaction MigrationError.transaction
    ((Database.send (.script m.script)).mapError (MigrationError.script m.version))

/-- Applies a migration unless it is on record; it has to be on record with the same script. -/
def Migration.ensure (m : Migration) (applied : List AppliedMigration) :
    Attempt MigrationError Unit :=
  match applied.find? (·.version == m.version) with
  | some a => if a.unchanged then return () else throw (.changed m.version)
  | none => m.apply

/-- Brings the tables of the database up to date. -/
def migrate : Attempt MigrationError Unit := do
  let applied ← Program.request .migrations
  match recordFault? migrations applied with
  | some fault => throw fault
  | none => migrations.forM (·.ensure applied)

/-- Opens the database whose address is configured. -/
def openDatabase (lookup : Lookup) : Attempt SetupError Unit :=
  match databaseUrl lookup with
  | .error cause => throw (.config cause)
  | .ok url => Attempt.request SetupError.connection (Program.request (.connect url))

/-- Opens the database and brings its tables up to date. -/
def setupDatabase (lookup : Lookup) : Attempt SetupError Unit := do
  openDatabase lookup
  migrate.mapError SetupError.migration

end FeedArchive
