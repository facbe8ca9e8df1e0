import LedgerRules.Pattern.Builtin
import LedgerRules.Proofs.Authoring
import LedgerRules.Proofs.DataFiles
import LedgerRules.Proofs.DatabaseHistory
import LedgerRules.Proofs.TreeText

/-! Rules added to a database from the command line, one command after the other. A command looks at
its text, makes a rule of it and stores that rule; what is read back later is one rule for each text
that passed the check, and a pass can apply it. -/

namespace LedgerRules

section
variable [Pattern.Engine]

def Check.accepts (text : String) : Bool := (Check.text text .empty).category.isOk

structure Rule.Applies (r : Rule) (category : String) : Prop where
  target : r.targetCategory = .ok category
  stored : r.newCategory = some category
  compiled : ∃ p, r.compiled = .ok (some p)

theorem Check.text_ok {text category : String}
    (h : (Check.text text .empty).category = .ok category) :
    ∃ condition p, Definition.split text = .ok (condition, category) ∧
      Condition.compile condition = .ok p := by
  have hcheck := Check.onEmpty_text text none
  rw [show Check.onEmpty (.text text) none = .ok category from h] at hcheck
  cases hs : Definition.split text with
  | error reason =>
    rw [hs] at hcheck
    exact nomatch hcheck
  | ok parts =>
    obtain ⟨condition, g⟩ := parts
    rw [hs] at hcheck
    dsimp only at hcheck
    cases hp : Condition.compile condition with
    | error f =>
      rw [hp] at hcheck
      exact nomatch hcheck
    | ok p =>
      rw [hp] at hcheck
      obtain rfl := Except.ok.inj hcheck
      exact ⟨condition, p, rfl, hp⟩

theorem Rule.ofText_applies {text category : String} (fresh : String)
    (h : (Check.text text .empty).category = .ok category) :
    (Rule.ofText fresh text).Applies category := by
  obtain ⟨condition, p, hs, hp⟩ := Check.text_ok h
  constructor
  · rw [Rule.targetCategory_text rfl, hs]
    rfl
  · rw [Rule.ofText, hs]
    rfl
  · exact ⟨p, by simp [Rule.compiled, Rule.ofText, hs, hp, Rule.ofCompile]⟩

theorem Rule.Applies.stored_eq {r : Rule} {category : String} (h : r.Applies category) :
    r.stored = r := by
  unfold Rule.stored
  rw [h.stored]

theorem Reapply.prepare_applies {rs : List Rule} (h : ∀ r ∈ rs, ∃ g, r.Applies g)
    (ids : Nat → String) :
    Reapply.prepare ids (rs.map .rule) = ⟨rs.map fun r => (r, r.newCategory.getD ""), []⟩ := by
  induction rs generalizing ids with
  | nil => rfl
  | cons r rs ih =>
    obtain ⟨⟨g, hg⟩, hrest⟩ := List.forall_mem_cons.mp h
    simp [Reapply.prepare, RuleInput.resolve, hg.target, hg.stored, ih hrest]

end

namespace Database

theorem addRule_new {db : Database} {fresh text : String} (h : fresh ∉ db.rules.map (·.id)) :
    db.addRule (Rule.ofText fresh text) =
      .ok { db with rules := db.rules ++ [RuleRow.keeping (Rule.ofText fresh text)] } := by
  have hfree : ¬db.rules.any (·.id = fresh) = true := by simpa using h
  have hrow : RuleRow.ofRule (Rule.ofText fresh text) =
      .ok (RuleRow.keeping (Rule.ofText fresh text)) := by
    simp [RuleRow.ofRule, Rule.ofText, RuleBody.toValue, isJson, RuleRow.keeping]
  rw [addRule, hrow]
  exact if_neg hfree

end Database

namespace CommandLine

namespace Directory
variable {d : Directory} {name : String} {db : Database}

/-- The file has these tables. -/
def Holds (d : Directory) (name : String) (db : Database) : Prop :=
  d.get? name = some (.database (some db))

def Leads (d : Directory) (url name : String) : Prop :=
  ∃ u f, DatabaseUrl.parse url = .ok u ∧ databaseFile? u = some f ∧ d.target f = .file name

theorem get?_put_other {other : String} (h : other ≠ name) (c : Content) :
    (d.put name c).get? other = d.get? other := by
  have hname : (other == name) = false := by simpa using h
  have hreplaced (files : List (String × Content)) :
      (files.map fun f => if f.1 = name then (name, c) else f).lookup other =
        files.lookup other := by
    induction files with
    | nil => rfl
    | cons f files ih =>
      obtain ⟨key, old⟩ := f
      rw [List.map_cons]
      split
      next hkey =>
        obtain rfl : key = name := hkey
        simpa only [List.lookup_cons, hname] using ih
      next => simp only [List.lookup_cons, ih]
  unfold put
  split
  next => exact hreplaced d.files
  next =>
    rw [get?, get?, List.lookup_append]
    simp [List.lookup_cons, hname]

theorem isSome_put (h : d.Holds name db) (c : Content) (other : String) :
    ((d.put name c).get? other).isSome = (d.get? other).isSome := by
  by_cases hother : other = name
  · rw [hother, get?_put, h]
    rfl
  · rw [get?_put_other hother]

theorem target_put (h : d.Holds name db) (c : Content) (f : FileName) :
    (d.put name c).target f = d.target f := by
  simp only [target, isSome_put h]

theorem Leads.put {url : String} (hurl : d.Leads url name) (h : d.Holds name db) (c : Content) :
    (d.put name c).Leads url name := by
  obtain ⟨u, f, hu, hf, htarget⟩ := hurl
  exact ⟨u, f, hu, hf, (target_put h c f).trans htarget⟩

theorem session_holds {α : Type} {url : String} (hurl : d.Leads url name) (h : d.Holds name db)
    (table : String) (step : Database → (Except StoreFault α × Database) × List Report) :
    d.session url table step =
      let after := db.session fun db => (step db).1
      ⟨after.1.mapError .fault, (step db).2, d.put name (.database (some after.2))⟩ := by
  obtain ⟨u, f, hu, hf, htarget⟩ := hurl
  have hopen : d.openTables f = .ok (name, some db, d) := by
    rw [openTables, htarget]
    dsimp only
    rw [h]
  simp [session, hu, hf, hopen]

end Directory

open Context Logging

/-- A command line that is to add a rule, in its surroundings. -/
structure Addition where
  context : Context
  arguments : List String
  rule : String

namespace Addition
variable {a : Addition} {d : Directory} {name : String} {db : Database}

def newId (a : Addition) : String := a.context.ids 0

def newRule (a : Addition) : Rule := Rule.ofText a.newId a.rule

def accepted [Pattern.Engine] (a : Addition) : Bool := Check.accepts a.rule

def run [Pattern.Engine] (a : Addition) (d : Directory) : Outcome := a.context.run d a.arguments

def Chooses (env : Environment) (given : Option String) (url : String) : Prop :=
  chooseUrl given none = some url ∨
    (chooseUrl given none = none ∧
      ∃ settings, Settings.ofEnvironment env = .ok settings ∧ settings.databaseUrl = some url)

/-- The command line is read as one that adds the rule to the database in this file. -/
def Reads (a : Addition) (d : Directory) (name : String) : Prop :=
  ∃ i env given url,
    invocation a.arguments = .ok i ∧ i.name = "add-rule" ∧
    CommandLine.addRule i.rest = .ok (.addRule a.rule given) ∧
    loadEnvironment a.context.env d = some env ∧
    (configure env ((i.logLevel.map LevelRequest.text).getD .absent) none "stderr"
      .initial).1.isOk ∧
    Chooses env given url ∧ d.Leads url name

theorem Reads.put (h : a.Reads d name) (hd : d.Holds name db) (tables : Option Database) :
    a.Reads (d.put name (.database tables)) name := by
  obtain ⟨i, env, given, url, hi, hname, hcommand, henv, hlevel, hurl, hleads⟩ := h
  refine ⟨i, env, given, url, hi, hname, hcommand, ?_, hlevel, hurl, hleads.put hd _⟩
  rw [← henv, loadEnvironment, loadEnvironment]
  by_cases hfile : envFileName = name
  · rw [hfile, Directory.get?_put, hd]
  · rw [Directory.get?_put_other hfile]

section
variable [Pattern.Engine]

theorem Reads.run (h : a.Reads d name) : ∃ (ctx : Context) (url : String),
    d.Leads url name ∧ ctx.ids = a.context.ids ∧
      let o := ofCheck d (Check.text a.rule .empty) fun _ => ctx.storeRule d a.rule url
      (a.run d).ending = o.ending ∧ (a.run d).directory = o.directory := by
  obtain ⟨i, env, given, url, hi, hname, hcommand, henv, hlevel, hurl, hleads⟩ := h
  let ctx : Context := { a.context with env }
  have hchosen : ctx.addRule d a.rule given =
      ofCheck d (Check.text a.rule .empty) fun _ => ctx.storeRule d a.rule url := by
    unfold Context.addRule
    rcases hurl with hgiven | ⟨hnone, settings, hsettings, hset⟩
    · rw [hgiven]
    · simp only [hnone, ctx, hsettings, hset]
  have hread : i.command d.isDirectory = .ok (.addRule a.rule given) := by
    rw [Invocation.command, hname]
    exact hcommand
  refine ⟨ctx, url, hleads, rfl, ?_⟩
  rw [← hchosen]
  simp only [Addition.run, Context.run, hi, henv]
  cases hrequest : i.logLevel
  all_goals
    simp only [hrequest, Option.map_none, Option.map_some, Option.getD_none, Option.getD_some]
      at hlevel ⊢
    split
    next hconfigured =>
      rw [hconfigured] at hlevel
      exact nomatch hlevel
    next =>
      rw [hread]
      exact ⟨rfl, rfl⟩

theorem run_rejected (h : a.Reads d name) (hrejected : a.accepted = false) :
    (a.run d).directory = d ∧ (a.run d).ending.exitCode = 1 := by
  obtain ⟨ctx, url, -, -, hending, hdirectory⟩ := h.run
  rw [hending, hdirectory, ofCheck]
  cases hcheck : (Check.text a.rule .empty).category with
  | ok category => simp [accepted, Check.accepts, hcheck, Except.isOk, Except.toBool] at hrejected
  | error failure =>
    cases failure with
    | malformed reason => exact ⟨rfl, rfl⟩
    | compile f => cases f <;> exact ⟨rfl, rfl⟩
    | noDefinition => exact ⟨rfl, rfl⟩
    | invalid faults => exact ⟨rfl, rfl⟩

theorem run_accepted (h : a.Reads d name) (hd : d.Holds name db) (haccepted : a.accepted = true)
    (hnew : a.newId ∉ db.rules.map (·.id)) :
    (a.run d).directory =
        d.put name (.database (some
          { db with rules := db.rules ++ [Database.RuleRow.keeping a.newRule] })) ∧
      (a.run d).ending = .done (a.newId ++ "\n") := by
  obtain ⟨ctx, url, hleads, hids, hending, hdirectory⟩ := h.run
  have hadd : db.addRule a.newRule = _ := Database.addRule_new hnew
  rw [hending, hdirectory, ofCheck]
  cases hcheck : (Check.text a.rule .empty).category with
  | error failure => simp [accepted, Check.accepts, hcheck, Except.isOk, Except.toBool] at haccepted
  | ok category =>
    have hrule : Rule.ofText (ctx.ids 0) a.rule = a.newRule := by rw [hids, newRule, newId]
    simp only [storeRule, hrule, Directory.session_holds hleads hd, Database.session, hadd]
    exact ⟨rfl, rfl⟩

end

def separated (context : Context) (url rule : String) : Addition :=
  ⟨context, ["add-rule", "--database-url", url, "--", rule], rule⟩

theorem separated_reads {context : Context} {url : String} (henv : context.env = [])
    (hfile : d.get? envFileName = none) (hurl : d.Leads url name) (hne : url ≠ "") (rule : String) :
    (separated context url rule).Reads d name := by
  refine ⟨⟨none, "add-rule", ["--database-url", url, "--", rule]⟩, [], some url, url, rfl, rfl, rfl,
    ?_, ?_, ?_, hurl⟩
  · rw [loadEnvironment, hfile, ← henv]
    rfl
  · have hlevel : (configure [] .absent none "stderr" .initial).1.isOk = true := by decide +kernel
    exact hlevel
  · exact .inl (if_neg hne)

section
variable [Pattern.Engine]

def runAll (as : List Addition) (d : Directory) : Directory :=
  as.foldl (fun d a => (a.run d).directory) d

def newRules (as : List Addition) : List Rule := (as.filter accepted).map newRule

theorem newRules_cons (a : Addition) (as : List Addition) :
    newRules (a :: as) = if a.accepted then a.newRule :: newRules as else newRules as := by
  unfold newRules
  rw [List.filter_cons]
  split <;> simp

end

theorem keeping_ids (rs : List Rule) :
    (rs.map Database.RuleRow.keeping).map (·.id) = rs.map (·.id) := by
  rw [List.map_map]
  rfl

section
variable [Pattern.Engine]

theorem newRules_ids (as : List Addition) :
    ((newRules as).map (·.id)).Sublist (as.map newId) := by
  rw [newRules, List.map_map]
  exact List.filter_sublist.map newId

theorem newId_free {ids : List String} {before later : List Addition}
    (h : (ids ++ (before ++ a :: later).map newId).Nodup) :
    a.newId ∉ ids ++ (newRules before).map (·.id) := by
  rw [List.map_append, List.map_cons, ← List.append_assoc] at h
  have hapart := (List.nodup_append.mp h).2.2
  intro hmem
  have hearlier : a.newId ∈ ids ++ before.map newId := by
    rcases List.mem_append.mp hmem with hids | hrules
    · exact List.mem_append_left _ hids
    · exact List.mem_append_right _ ((newRules_ids before).subset hrules)
  exact hapart a.newId hearlier a.newId List.mem_cons_self rfl

theorem runAll_holds {as : List Addition} (hd : d.Holds name db)
    (has : ∀ a ∈ as, a.Reads d name)
    (hids : (db.rules.map (·.id) ++ as.map newId).Nodup) :
    (runAll as d).Holds name
        { db with rules := db.rules ++ (newRules as).map Database.RuleRow.keeping } ∧
      ∀ b : Addition, b.Reads d name → b.Reads (runAll as d) name := by
  induction as generalizing d db with
  | nil =>
    constructor
    · simpa [runAll, newRules] using hd
    · exact fun _ h => h
  | cons a as ih =>
    obtain ⟨ha, hrest⟩ := List.forall_mem_cons.mp has
    have hstep : runAll (a :: as) d = runAll as (a.run d).directory := rfl
    rw [List.map_cons, List.nodup_middle] at hids
    obtain ⟨hnew, hlater⟩ := List.nodup_cons.mp hids
    rw [hstep, newRules_cons]
    cases haccepted : a.accepted with
    | false =>
      rw [(run_rejected ha haccepted).1]
      exact ih hd hrest hlater
    | true =>
      have hfree : a.newId ∉ db.rules.map (·.id) := mt (List.mem_append_left _) hnew
      rw [(run_accepted ha hd haccepted hfree).1]
      have hnext := Directory.get?_put d name (.database (some
        { db with rules := db.rules ++ [Database.RuleRow.keeping a.newRule] }))
      have hids' : ((db.rules ++ [Database.RuleRow.keeping a.newRule]).map (·.id) ++
          as.map newId).Nodup := by
        rw [List.map_append, List.append_assoc]
        exact (List.nodup_middle).mpr (List.nodup_cons.mpr ⟨hnew, hlater⟩)
      obtain ⟨hholds, hreads⟩ := ih hnext (fun b hb => (hrest b hb).put hd _) hids'
      constructor
      · rw [List.append_assoc] at hholds
        exact hholds
      · exact fun b hb => hreads b (hb.put hd _)

end

end Addition

/-- Commands that add rules to one database, in which there are none and which never fails. What is
listed afterwards are the texts that pass the check, as they were given and in this order; a pass
applies each of them for the category that the check told. A command whose text does not pass fails
and changes nothing. -/
theorem added_rules_listed [Pattern.Engine] {d : Directory} {name : String} {db : Database}
    {as : List Addition} (hd : d.Holds name db) (hempty : db.rules = [])
    (has : ∀ a ∈ as, a.Reads d name) (hids : (as.map Addition.newId).Nodup) :
    ∃ after rs, (Addition.runAll as d).Holds name after ∧
      after.transactions = db.transactions ∧ after.listRules = .ok rs ∧
      rs.map (·.definition) = (as.filter Addition.accepted).map (fun a => .text a.rule) ∧
      (∀ r ∈ rs, ∃ text category, r.definition = .text text ∧
        (Check.text text .empty).category = .ok category ∧ r.Applies category) ∧
      (∀ fresh, Reapply.prepare fresh (rs.map .rule) =
        ⟨rs.map fun r => (r, r.newCategory.getD ""), []⟩) ∧
      ∀ before a later, as = before ++ a :: later →
        let o := a.run (Addition.runAll before d)
        (a.accepted = true → o.ending = .done (a.newId ++ "\n")) ∧
        (a.accepted = false → o.ending.exitCode = 1 ∧ o.directory = Addition.runAll before d) := by
  have hids' : (db.rules.map (·.id) ++ as.map Addition.newId).Nodup := by simpa [hempty] using hids
  obtain ⟨hholds, -⟩ := Addition.runAll_holds hd has hids'
  have happlies : ∀ r ∈ Addition.newRules as, ∃ text category, r.definition = .text text ∧
      (Check.text text .empty).category = .ok category ∧ r.Applies category := by
    intro r hr
    obtain ⟨a, ha, rfl⟩ := List.mem_map.mp hr
    obtain ⟨category, hcheck⟩ := exists_of_isOk (List.mem_filter.mp ha).2
    exact ⟨a.rule, category, rfl, hcheck, Rule.ofText_applies _ hcheck⟩
  have hstored : (Addition.newRules as).map Rule.stored = Addition.newRules as := by
    conv_rhs => rw [← List.map_id (Addition.newRules as)]
    apply List.map_congr_left
    intro r hr
    obtain ⟨-, category, -, -, h⟩ := happlies r hr
    exact h.stored_eq
  rw [hempty, List.nil_append] at hholds
  refine ⟨_, Addition.newRules as, hholds, rfl, ?_, ?_, happlies, ?_, ?_⟩
  · rw [Database.listRules_keeping rfl, hstored]
  · rw [Addition.newRules, List.map_map]
    rfl
  · apply Reapply.prepare_applies
    intro r hr
    obtain ⟨-, category, -, -, h⟩ := happlies r hr
    exact ⟨category, h⟩
  · rintro before a later rfl
    have hbefore : ∀ b ∈ before, b.Reads d name := fun b hb => has b (by simp [hb])
    have hfree := Addition.newId_free hids'
    rw [List.map_append, ← List.append_assoc] at hids'
    obtain ⟨hthen, hkept⟩ := Addition.runAll_holds hd hbefore (List.nodup_append.mp hids').1
    have hreads := hkept a (has a (by simp))
    constructor
    · intro haccepted
      rw [← Addition.keeping_ids, ← List.map_append] at hfree
      exact (Addition.run_accepted hreads hthen haccepted hfree).2
    · intro hrejected
      exact (Addition.run_rejected hreads hrejected).symm

open scoped Pattern.Builtin in
theorem added_rules_listed_shop :
    let d : Directory := ⟨[("rules.db", .database (some .empty))]⟩
    let add (id rule : String) : Addition :=
      .separated ⟨fun _ => Clock.unlimited, fun _ => id, []⟩ "sqlite:///rules.db" rule
    let food := "transaction.merchant === \"Shop\" -> \"Food\""
    let refund := "-5 > transaction.amount -> \"Refund\""
    let as := [add "1" food, add "2" "-> \"Food\"", add "3" refund]
    ∃ after rs, (Addition.runAll as d).Holds "rules.db" after ∧ after.listRules = .ok rs ∧
      rs.map (·.definition) = [.text food, .text refund] ∧ ∀ r ∈ rs, ∃ g, r.Applies g := by
  intro d add food refund as
  have hleads : d.Leads "sqlite:///rules.db" "rules.db" :=
    ⟨⟨"sqlite", some "rules.db"⟩, ⟨false, ["rules.db"]⟩, by decide +kernel, by decide +kernel, rfl⟩
  have has : ∀ a ∈ as, a.Reads d "rules.db" := by
    have hadd (id rule : String) : (add id rule).Reads d "rules.db" :=
      Addition.separated_reads rfl rfl hleads (by decide) rule
    simp [as, hadd]
  have hids : (as.map Addition.newId).Nodup := by
    simp [as, add, Addition.newId, Addition.separated]
  have hholds : d.Holds "rules.db" .empty := rfl
  obtain ⟨after, rs, hafter, -, hlisted, htexts, happlies, -⟩ :=
    added_rules_listed hholds rfl has hids
  refine ⟨after, rs, hafter, hlisted, ?_, fun r hr => ?_⟩
  · have haccepted : Check.accepts food = true ∧ Check.accepts "-> \"Food\"" = false ∧
        Check.accepts refund = true := by decide +kernel
    rw [htexts]
    simp [as, add, Addition.accepted, Addition.separated, haccepted]
  · obtain ⟨-, g, -, -, h⟩ := happlies r hr
    exact ⟨g, h⟩

end CommandLine

end LedgerRules
