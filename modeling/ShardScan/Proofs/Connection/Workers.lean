import ShardScan.Catalog.Tables
import ShardScan.Proofs.Connection.Sharing
import ShardScan.Proofs.Outcome
import ShardScan.Proofs.Plan.Shards
import ShardScan.Proofs.Wire.RoundTrip
import ShardScan.Scan.Shared

/-!
# Catalogs and workers share a connection

A catalog hands its options on to the scans of its tables, which carry their
snapshot to the workers.  As long as the catalog holds its connection, the
readers of a worker get the same one, also by a plan that was sent as bytes.

## Main definitions

* `Pushdown.Follows` — what an engine makes of a scan.
* `Wire.Arrives` — a property of something, and of what is decoded from its bytes.
* `Usage.Resolves` — a plan leads to a connection.

## Main results

* `Usage.resolves_plan` — the plan of a scan leads to the connection of the catalog.
* `shared_connections` — who gets which connection, in any history of a registry.
-/

namespace ShardScan

/-! ### The options of a plan -/

namespace Pushdown

/-- What an engine makes of a scan, one thing handed over after the other. -/
inductive Follows (b : Pushdown) : Pushdown → Prop
  | start : Follows b b
  | predicates {b' : Pushdown} (h : Follows b b') (predicates : List Expr) :
      Follows b (b'.pushPredicates predicates).2
  | columns {b' : Pushdown} (h : Follows b b') (columns : Schema) : Follows b (b'.project columns)
  | limit {b' : Pushdown} (h : Follows b b') (limit : Word .u64) : Follows b (b'.limitRows limit)

theorem Follows.options_eq {b b' : Pushdown} (h : b.Follows b') : b'.options = b.options := by
  induction h with
  | start => rfl
  | predicates _ _ ih => exact ih
  | columns _ _ ih => exact ih
  | limit _ _ ih => exact ih

end Pushdown

/-- A property of something, and of what is decoded from its bytes, whatever follows on them. -/
def Wire.Arrives {α : Type} [Wire α] (a : α) (P : α → Prop) : Prop :=
  P a ∧ ∀ rest, (encode a).length < byteLimit → ∃ a', decode (encode a ++ rest) = .ok a' ∧ P a'

theorem Wire.arrives {α : Type} [Wire α] [LawfulWire α] {a : α} {P : α → Prop} (h : P a) :
    Arrives a P :=
  ⟨h, fun rest hlength => ⟨a, decode_encode_append hlength rest, h⟩⟩

/-! ### The connection of a plan -/

/-- A table is looked up with the options of the catalog. -/
theorem CatalogTable.options_of_lookup {link : CatalogLink} {s : Store} {path name : String}
    {index : Option String} {t : CatalogTable} (h : lookup link s path name index = .ok t) :
    t.options = link.options := by
  obtain ⟨layout, -, rfl⟩ := Except.exists_of_map_eq_ok h
  rfl

/-- A table or an index is loaded with the options of the catalog. -/
theorem Catalog.options_of_loadTable {c : Catalog} {link : CatalogLink} (hlink : c.link = some link)
    {s : Store} {table : TableName} {t : CatalogTable} (h : c.loadTable s table = .ok t) :
    t.options = link.options := by
  simp only [loadTable, link?, hlink, bind, Except.bind] at h
  split at h
  · split at h
    · cases h
    · exact CatalogTable.options_of_lookup (Except.of_mapError_eq_ok h)
  · exact CatalogTable.options_of_lookup (Except.of_mapError_eq_ok h)

namespace Usage

variable {u : Usage} {options : ConnectionOptions} {c : Connector}

/-- A plan leads to a connection: by a look-up, and for the readers of its shards, whatever a
client factory would do. -/
def Resolves (u : Usage) (p : ScanPlan) (c : Connector) : Prop :=
  Wire.Arrives p (fun p => u.registry.lookup p.connection = some c) ∧
  ∀ shard ∈ p.shards, ∀ (store : Store) (timeoutSeconds : Word .u64)
    (client : ConnectionOptions → Except StoreError Unit),
    Wire.Arrives shard fun shard =>
      (Backend.openReader ⟨store, u.registry⟩ shard timeoutSeconds client).1 =
        .ok ⟨.new shard timeoutSeconds, some c⟩

theorem openReader_of_held (h : u.Sound) (hc : c ∈ u.held) {shard : Shard}
    (hconnection : shard.plan.connection.snapshot = c.options) (store : Store)
    (timeoutSeconds : Word .u64) (client : ConnectionOptions → Except StoreError Unit) :
    (Backend.openReader ⟨store, u.registry⟩ shard timeoutSeconds client).1 =
      .ok ⟨.new shard timeoutSeconds, some c⟩ := by
  rw [Backend.openReader]
  dsimp only
  rw [acquire_eq, acquire_held h hc hconnection.symm]
  rfl

/-- A plan that carries the snapshot of a held connection leads to it. -/
theorem resolves_of_held (h : u.Sound) (hc : c ∈ u.held) {p : ScanPlan}
    (hconnection : p.connection.snapshot = c.options) : u.Resolves p c := by
  refine ⟨Wire.arrives (h.tracks.lookup_eq_some_iff.mpr ⟨hc, hconnection.symm⟩), ?_⟩
  intro shard hshard store timeoutSeconds client
  obtain rfl := ScanPlan.plan_of_mem_shards hshard
  exact Wire.arrives (openReader_of_held h hc hconnection store timeoutSeconds client)

/-- The plan of a scan leads to the connection of the catalog. -/
theorem resolves_plan (h : u.Sound) {link : CatalogLink} (hc : link.connector ∈ u.held)
    (hoptions : link.connector.options = link.options.snapshot) {t : CatalogTable}
    (ht : t.options = link.options) {b : Pushdown} (hb : t.scan.Follows b)
    (settings : ScanSettings) : u.Resolves (b.plan settings) link.connector := by
  refine resolves_of_held h hc ?_
  have hstart : b.options = link.options := hb.options_eq.trans ht
  rw [hoptions, Pushdown.plan, hstart, ConnectionOptions.snapshot_snapshot]

end Usage

/-- A catalog that could be connected holds the connection for its options. -/
theorem Catalog.link_of_connect {u : Usage} (h : u.Sound) {settings : ScanSettings} {name : String}
    {options : ConnectionOptions} {connect : ConnectionOptions → Except StoreError Unit}
    {catalog : Catalog}
    (hconnect : (Catalog.connect settings u.registry name options connect).1 = .ok catalog) :
    ∃ link, catalog.link = some link ∧ link.options = options ∧
      link.connector ∈ (u.acquire options connect).2.held ∧
      link.connector.options = options.snapshot := by
  rw [Catalog.connect, Usage.acquire_eq] at hconnect
  by_cases hheld : ∃ c ∈ u.held, c.options = options.snapshot
  · obtain ⟨c, hc, hoptions⟩ := hheld
    rw [Usage.acquire_held h hc hoptions] at hconnect ⊢
    cases hconnect
    exact ⟨_, rfl, rfl, List.mem_cons_self, hoptions⟩
  · push Not at hheld
    cases hclient : connect options.snapshot with
    | error e =>
      rw [Usage.acquire_failed h hheld hclient] at hconnect
      cases hconnect
    | ok =>
      rw [Usage.acquire_opened h hheld hclient] at hconnect ⊢
      cases hconnect
      exact ⟨_, rfl, rfl, List.mem_cons_self, rfl⟩

theorem Catalog.registry_connect (u : Usage) (settings : ScanSettings) (name : String)
    (options : ConnectionOptions) (connect : ConnectionOptions → Except StoreError Unit) :
    (Catalog.connect settings u.registry name options connect).2 =
      (u.acquire options connect).2.registry := by
  rw [Catalog.connect, Usage.acquire_eq]
  cases (u.acquire options connect).1 <;> rfl

/-- **Connections are shared.**  Whatever was done with a registry, what is live in it is held, under
a snapshot that no other live connection has.  An acquisition hands the live connection with the
snapshot out; where there is none, it calls the client factory once, and a failure of it leaves
everything that is live as it was.  The counters say how many connections were opened and how many
acquisitions were served by one that was held.  Options have one snapshot iff they agree on the keys
that tune nothing, without regard to case.  And the plans of a catalog's tables lead to the
connection of the catalog, as long as it is held. -/
theorem shared_connections (actions : List UsageAction) :
    let u := Usage.start.run actions
    (u.registry.live.map (·.options)).Nodup ∧
    (∀ c, c ∈ u.registry.live ↔ c ∈ u.held) ∧
    (∀ c ∈ u.held, c.options.snapshot = c.options) ∧
    (∀ options c, u.registry.lookup options = some c ↔
      c ∈ u.held ∧ c.options = options.snapshot) ∧
    (∀ options connect, u.registry.acquire options connect =
      ((u.acquire options connect).1, (u.acquire options connect).2.registry)) ∧
    (∀ options connect c, c ∈ u.held → c.options = options.snapshot →
      (u.acquire options connect).1 = .ok (.found c) ∧
      (u.acquire options connect).2.calls = u.calls ∧
      (u.acquire options connect).2.held = c :: u.held) ∧
    (∀ options connect, (∀ c ∈ u.held, c.options ≠ options.snapshot) →
      (u.acquire options connect).2.calls =
        u.calls ++ [⟨options.snapshot, (connect options.snapshot).isOk⟩] ∧
      (connect options.snapshot = .ok () → ∃ c, c ∉ u.held ∧ c.options = options.snapshot ∧
        (u.acquire options connect).1 = .ok (.opened c) ∧
        (u.acquire options connect).2.held = c :: u.held) ∧
      ∀ e, connect options.snapshot = .error e →
        (u.acquire options connect).1 = .error e ∧
        (u.acquire options connect).2.held = u.held ∧
        (u.acquire options connect).2.registry.live = u.registry.live) ∧
    u.registry.opened = u.calls.countP (·.succeeded) ∧
    u.registry.hits = u.served ∧
    (∀ l l' : List (String × String),
      List.Forall₂ (fun e e' => ConnectionOptions.SameKey e.1 e'.1 ∧ e.2 = e'.2) l l' →
      ConnectionOptions.ofList l = ConnectionOptions.ofList l') ∧
    (∀ l l' : List (String × String),
      (ConnectionOptions.ofList l).snapshot = (ConnectionOptions.ofList l').snapshot ↔
      ∀ key, ConnectionOptions.canonicalKey key ∉ ConnectionOptions.tuningKeys →
        (ConnectionOptions.ofList l).get? key = (ConnectionOptions.ofList l').get? key) ∧
    ∀ settings name options connect catalog,
      (Catalog.connect settings u.registry name options connect).1 = .ok catalog →
      (Catalog.connect settings u.registry name options connect).2 =
        (u.acquire options connect).2.registry ∧
      ∃ link, catalog.link = some link ∧
        link.connector ∈ (u.acquire options connect).2.held ∧
        ∀ later, link.connector ∈ ((u.acquire options connect).2.run later).held →
          ∀ store table t b, catalog.loadTable store table = .ok t → t.scan.Follows b →
            ((u.acquire options connect).2.run later).Resolves (b.plan settings)
              link.connector := by
  intro u
  have h : u.Sound := Usage.sound_run Usage.sound_start actions
  refine ⟨h.tracks.nodup_live, fun c => h.tracks.mem_live, fun c => h.tracks.options_snapshot,
    fun options c => h.tracks.lookup_eq_some_iff, u.acquire_eq, ?_, ?_, h.opened, h.hits,
    ?_, ?_, ?_⟩
  · intro options connect c hc hoptions
    rw [Usage.acquire_held h hc hoptions]
    exact ⟨rfl, rfl, rfl⟩
  · intro options connect hfree
    exact Usage.acquire_free h connect hfree
  · intro l l' hsame
    exact ConnectionOptions.ofList_congr hsame
  · intro l l'
    exact ConnectionOptions.snapshot_ofList_eq_iff
  · intro settings name options connect catalog hconnect
    obtain ⟨link, hlink, rfl, hheld, hoptions⟩ := Catalog.link_of_connect h hconnect
    refine ⟨Catalog.registry_connect u settings name link.options connect, link, hlink, hheld, ?_⟩
    intro later hlater store table t b hload hfollows
    have hsound := Usage.sound_run (Usage.sound_acquire h link.options connect) later
    exact Usage.resolves_plan hsound hlater hoptions (Catalog.options_of_loadTable hlink hload)
      hfollows settings

/-- The options of an engine and of a catalog that mean one store, and those for another store. -/
def engineOptions : ConnectionOptions :=
  .ofList [("ENDPOINT", "grpc://a"), ("scan.queue.depth", "7")]

def catalogOptions : ConnectionOptions :=
  .ofList [("endpoint", "grpc://a"), ("List.Indexes", "true")]

def otherOptions : ConnectionOptions := .ofList [("endpoint", "grpc://b")]

/-- The connection to the first store. -/
def firstConnector : Connector := ⟨0, catalogOptions.snapshot⟩

def refusal : StoreError := .of "connect" .unavailable "no route"

/-- A client factory that fails, and one that does not. -/
def refuse (_ : ConnectionOptions) : Except StoreError Unit := .error refusal

def accept (_ : ConnectionOptions) : Except StoreError Unit := .ok ()

/-- The first store is out of reach, then its connection is handed around. -/
def handedAround : List UsageAction :=
  [.acquire engineOptions refuse, .acquire engineOptions accept, .get catalogOptions,
    .share firstConnector, .drop firstConnector, .purge]

def noteLayout : TableLayout :=
  ⟨[⟨"id", .int .int32⟩, ⟨"line", .text⟩], ["id"], [], .empty, [.all]⟩

def noteStore : Store := ((Store.new "/local").createTable "/local/notes" noteLayout).2

def noteTable : CatalogTable :=
  ⟨"notes", "/local/notes", none, noteLayout, catalogOptions, firstConnector⟩

def notePlan : ScanPlan := (noteTable.scan.limitRows 10).plan Settings.builtin.scan

/-- A catalog shares the connection of an engine, and a reader gets it by a plan that was sent. -/
theorem shared_connections_notes :
    firstConnector.options.snapshot = firstConnector.options ∧
      ((Usage.start.run handedAround).acquire catalogOptions refuse).1 =
        .ok (.found firstConnector) ∧
      ((Usage.start.run handedAround).acquire otherOptions refuse).2.registry.live =
        (Usage.start.run handedAround).registry.live ∧
      (∃ c, c ≠ firstConnector ∧
        ((Usage.start.run handedAround).acquire otherOptions accept).1 = .ok (.opened c)) ∧
      ConnectionOptions.ofList [("EndPoint", "grpc://a"), ("scan.QUEUE.depth", "7")] =
        engineOptions ∧
      (∃ p : ScanPlan, Wire.decode (Wire.encode notePlan ++ []) = .ok p ∧
        (((Usage.start.run handedAround).acquire catalogOptions refuse).2.run
          [.drop firstConnector, .purge]).registry.lookup p.connection = some firstConnector) ∧
      ∃ shard : Shard, Wire.decode (Wire.encode (⟨notePlan, 0, .all⟩ : Shard) ++ []) = .ok shard ∧
        (Backend.openReader ⟨noteStore,
          (((Usage.start.run handedAround).acquire catalogOptions refuse).2.run
            [.drop firstConnector, .purge]).registry⟩ shard 60 refuse).1 =
          .ok ⟨.new shard 60, some firstConnector⟩ := by
  obtain ⟨-, -, hsnapshot, -, -, hheld, hfree, -, -, hcase, -, hcatalog⟩ :=
    shared_connections handedAround
  have hfirst : firstConnector ∈ (Usage.start.run handedAround).held := by decide +kernel
  have hother : ∀ c ∈ (Usage.start.run handedAround).held, c.options ≠ otherOptions.snapshot := by
    decide +kernel
  obtain ⟨hfound, -, -⟩ := hheld catalogOptions refuse firstConnector hfirst rfl
  obtain ⟨-, -, hfailed⟩ := hfree otherOptions refuse hother
  obtain ⟨-, hopened, -⟩ := hfree otherOptions accept hother
  obtain ⟨c, hc, -, houtcome, -⟩ := hopened rfl
  obtain ⟨-, link, hlink, -, hlater⟩ := hcatalog Settings.builtin.scan "kv" catalogOptions
    refuse ⟨"kv", some ⟨firstConnector, catalogOptions, true⟩⟩ (by decide +kernel)
  cases hlink
  obtain ⟨hplan, hreaders⟩ := hlater [.drop firstConnector, .purge] (by decide +kernel) noteStore
    ⟨[], "notes"⟩ noteTable (noteTable.scan.limitRows 10) (by decide +kernel) (.limit .start 10)
  have hcases : List.Forall₂ (fun e e' => ConnectionOptions.SameKey e.1 e'.1 ∧ e.2 = e'.2)
      [("EndPoint", "grpc://a"), ("scan.QUEUE.depth", "7")]
      [("ENDPOINT", "grpc://a"), ("scan.queue.depth", "7")] :=
    .cons ⟨by decide +kernel, rfl⟩ (.cons ⟨by decide +kernel, rfl⟩ .nil)
  refine ⟨hsnapshot _ hfirst, hfound, (hfailed refusal rfl).2.2,
    ⟨c, fun heq => hc (heq ▸ hfirst), houtcome⟩, hcase _ _ hcases,
    hplan.2 [] (by decide +kernel), ?_⟩
  exact (hreaders ⟨notePlan, 0, .all⟩ (by decide +kernel) noteStore 60 refuse).2 []
    (by decide +kernel)

end ShardScan
