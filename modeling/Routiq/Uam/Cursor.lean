import Mathlib.Data.List.Nodup
import Mathlib.Order.Lattice

/-! The keyset cursor over the users table (`db/User.ts`) and the filters it
scans with (`db/filter.ts`). Between two page queries other transactions commit. -/
namespace Routiq.Uam.Cursor
open List

variable {Row Id : Type}

/-! ## Filters and their SQL -/

/-- An SQL condition by its meaning: whether the database evaluates it without
an error, and the rows it is TRUE of. -/
structure Clause (Row : Type) where
  accepted : Bool
  holds : Row → Bool

def AND (values : List Bool) : Bool := values.all id
def OR (values : List Bool) : Bool := values.any id

/-- Clauses joined by an operator; the empty text if there are none. -/
def join (operator : List Bool → Bool) : List (Clause Row) → Option (Clause Row)
  | [] => none
  | clauses => some ⟨clauses.all (·.accepted),fun row => operator (clauses.map (·.holds row))⟩

/-- The empty text in parentheses is a syntax error. -/
def parenthesised (sql : Option (Clause Row)) : Clause Row :=
  ⟨sql.any (·.accepted),fun row => sql.all (·.holds row)⟩

/-- The entries of a filter object in order, a field with the clause `buildExpr` gives it. -/
inductive Filter (Row : Type)
  | empty
  | field (clause : Clause Row) (rest : Filter Row)
  | or (subFilters : List (Filter Row)) (rest : Filter Row)
  | and (subFilters : List (Filter Row)) (rest : Filter Row)

namespace Filter

def clauses : Filter Row → List (Clause Row)
  | empty => []
  | field clause rest => clause :: rest.clauses
  | or subFilters rest =>
    (join OR (subFilters.map fun sub => parenthesised (join AND sub.clauses))).toList ++ rest.clauses
  | and subFilters rest => subFilters.flatMap (fun sub => (join AND sub.clauses).toList) ++ rest.clauses

def buildWhere (filter : Filter Row) : Option (Clause Row) := join AND filter.clauses

/-- What a filter asks of a row; an empty one asks nothing. -/
def accepts (row : Row) : Filter Row → Bool
  | empty => true
  | field clause rest => clause.holds row && rest.accepts row
  | or subFilters rest =>
    (subFilters.isEmpty || (subFilters.map fun sub => sub.accepts row).any id) && rest.accepts row
  | and subFilters rest => (subFilters.map fun sub => sub.accepts row).all id && rest.accepts row

def asksNothing : Filter Row → Bool
  | empty => true
  | field _ _ => false
  | or subFilters rest => subFilters.isEmpty && rest.asksNothing
  | and subFilters rest => (subFilters.map fun sub => sub.asksNothing).all id && rest.asksNothing

/-- The database evaluates the clause of every field, and no alternative of an
`$or` asks nothing. -/
def evaluable : Filter Row → Bool
  | empty => true
  | field clause rest => clause.accepted && rest.evaluable
  | or subFilters rest =>
    (subFilters.map fun sub => !sub.asksNothing && sub.evaluable).all id && rest.evaluable
  | and subFilters rest => (subFilters.map fun sub => sub.evaluable).all id && rest.evaluable

end Filter

section
variable (clauses : List (Clause Row)) (row : Row)

theorem join_eq_none (operator : List Bool → Bool) : join operator clauses = none ↔ clauses = [] := by
  cases clauses <;> simp [join]

theorem accepted_join (operator : List Bool → Bool) :
    (join operator clauses).toList.all (·.accepted) = clauses.all (·.accepted) := by
  cases clauses <;> simp [join]

theorem holds_join_AND : (join AND clauses).toList.all (·.holds row) = clauses.all (·.holds row) := by
  cases clauses <;> simp [AND,join,all_map]

theorem holds_join_OR :
    (join OR clauses).toList.all (·.holds row) = (clauses.isEmpty || clauses.any (·.holds row)) := by
  cases clauses <;> simp [OR,join,any_map]

theorem accepted_parenthesised :
    (parenthesised (join AND clauses)).accepted = (!clauses.isEmpty && clauses.all (·.accepted)) := by
  cases clauses <;> rfl

theorem holds_parenthesised : (parenthesised (join AND clauses)).holds row = clauses.all (·.holds row) := by
  cases clauses <;> simp [parenthesised,AND,join,all_map]

end

namespace Filter
variable (filter : Filter Row)

theorem isEmpty_clauses : filter.clauses.isEmpty = filter.asksNothing := by
  induction filter using clauses.induct with
  | case1 => rw [clauses,asksNothing,isEmpty_nil]
  | case2 clause rest ih => rw [clauses,asksNothing,isEmpty_cons]
  | case3 subFilters rest hsubs ih =>
    cases subFilters <;> simp [clauses,asksNothing,join,ih]
  | case4 subFilters rest hsubs ih =>
    rw [clauses,asksNothing,← ih,← map_congr_left hsubs,Bool.eq_iff_iff]
    simp [join_eq_none]

theorem accepted_clauses : filter.clauses.all (·.accepted) = filter.evaluable := by
  induction filter using clauses.induct with
  | case1 => rw [clauses,evaluable,all_nil]
  | case2 clause rest ih => rw [clauses,evaluable,all_cons,ih]
  | case3 subFilters rest hsubs ih =>
    have hparts : ∀ sub ∈ subFilters, (parenthesised (join AND sub.clauses)).accepted =
        (!sub.asksNothing && sub.evaluable) := by
      intro sub hsub
      rw [accepted_parenthesised,isEmpty_clauses,hsubs sub hsub]
    rw [clauses,evaluable,all_append,ih,← map_congr_left hparts,accepted_join,all_map,all_map]
    rfl
  | case4 subFilters rest hsubs ih =>
    rw [clauses,evaluable,all_append,ih,← map_congr_left hsubs,all_flatMap,all_map]
    simp only [accepted_join]
    rfl

theorem holds_clauses (row : Row) : filter.clauses.all (·.holds row) = filter.accepts row := by
  induction filter using clauses.induct with
  | case1 => rw [clauses,accepts,all_nil]
  | case2 clause rest ih => rw [clauses,accepts,all_cons,ih]
  | case3 subFilters rest hsubs ih =>
    rw [clauses,accepts,all_append,ih,← map_congr_left hsubs,holds_join_OR,any_map,any_map,isEmpty_map]
    simp only [Function.comp_def,holds_parenthesised]
    rfl
  | case4 subFilters rest hsubs ih =>
    rw [clauses,accepts,all_append,ih,← map_congr_left hsubs,all_flatMap,all_map]
    simp only [holds_join_AND]
    rfl

end Filter

/-! ## The scan -/

inductive Outcome
  | running | returned | threw

variable [LinearOrder Id]

/-- The rows of `users` in the order of their primary key. -/
structure Table (id : Row → Id) where
  rows : List Row
  increasing : (rows.map id).Pairwise (· < ·)

def pageWhere (id : Row → Id) (baseWhere : Option (Clause Row)) : Option Id → Option (Clause Row)
  | none => baseWhere
  | some lastId => join AND (baseWhere.toList ++ [⟨true,fun row => lastId < id row⟩])

variable {id : Row → Id}

/-- `ORDER BY id ASC LIMIT 500`; nothing if the database refuses the text. -/
def query (sql : Option (Clause Row)) (table : Table id) : Option (List Row) :=
  if sql.toList.all (·.accepted) then
    some ((table.rows.filter fun row => sql.toList.all (·.holds row)).take 500)
  else none

/-- The loop of `cursor` behind `lastId`, for a number of queries: the rows it
yields, and how it ends. Each query finds its own table. -/
def scan (filter : Filter Row) (lastId : Option Id) (tables : Nat → Table id) : Nat → List Row × Outcome
  | 0 => ([],.running)
  | queries + 1 =>
    match query (pageWhere id filter.buildWhere lastId) (tables 0) with
    | none => ([],.threw)
    | some rows =>
      match rows.getLast? with
      | none => ([],.returned)
      | some last =>
        let later := scan filter (some (id last)) (fun query => tables (query + 1)) queries
        (rows ++ later.1,later.2)

def cursor (filter : Filter Row) (tables : Nat → Table id) (queries : Nat) : List Row × Outcome :=
  scan filter none tables queries

/-- The scan returns. Its ids increase strictly, and a row that every query finds
and that matches each time is yielded once. -/
def ScansCompletely (filter : Filter Row) (tables : Nat → Table id) : Prop :=
  (∃ queries, (cursor filter tables queries).2 = .returned) ∧
    ∀ queries, ((cursor filter tables queries).1.map id).Pairwise (· < ·) ∧
      ((cursor filter tables queries).2 = .returned → ∀ rowId,
        (∀ query < queries, ∃ row ∈ (tables query).rows, id row = rowId ∧ filter.accepts row = true) →
        ((cursor filter tables queries).1.map id).count rowId = 1)

/-! ## One page -/

variable {filter : Filter Row} {lastId : Option Id} {table : Table id} {tables : Nat → Table id}
  {row last : Row}

/-- The matches behind `lastId`. -/
def left (filter : Filter Row) (lastId : Option Id) (table : Table id) : List Row :=
  table.rows.filter fun row => filter.accepts row && lastId.all (· < id row)

/-- The texts mean what the filter asks: a page holds the next 500 matches. -/
theorem query_pageWhere (filter : Filter Row) (lastId : Option Id) (table : Table id) :
    query (pageWhere id filter.buildWhere lastId) table =
      if filter.evaluable then some ((left filter lastId table).take 500) else none := by
  have haccepted : (pageWhere id filter.buildWhere lastId).toList.all (·.accepted) = filter.evaluable := by
    cases lastId <;> simp [pageWhere,Filter.buildWhere,accepted_join,Filter.accepted_clauses]
  have hholds : ∀ row, (pageWhere id filter.buildWhere lastId).toList.all (·.holds row) =
      (filter.accepts row && lastId.all (· < id row)) := by
    intro row
    cases lastId <;> simp [pageWhere,Filter.buildWhere,holds_join_AND,Filter.holds_clauses]
  rw [query,haccepted,funext hholds]
  rfl

theorem increasing_left (filter : Filter Row) (lastId : Option Id) (table : Table id) :
    ((left filter lastId table).map id).Pairwise (· < ·) := table.increasing.sublist (filter_sublist.map id)

theorem behind_of_mem_left (hrow : row ∈ left filter lastId table) :
    lastId.all (· < id row) = true := (Bool.and_eq_true_iff.mp (mem_filter.mp hrow).2).2

theorem behind_trans (hlast : lastId.all (· < id last) = true) (hrow : id last < id row) :
    lastId.all (· < id row) = true := by
  cases lastId with
  | none => rfl
  | some first => exact decide_eq_true (lt_trans (of_decide_eq_true hlast) hrow)

/-- A page reaches to its last row, and what it leaves out comes after that row. -/
theorem page_cut {rows : List Row} (hrows : (rows.map id).Pairwise (· < ·))
    (hlast : (rows.take 500).getLast? = some last) :
    (∀ row ∈ rows.take 500, id row ≤ id last) ∧ ∀ row ∈ rows, row ∈ rows.take 500 ∨ id last < id row := by
  rw [← take_append_drop 500 rows,map_append,pairwise_append] at hrows
  obtain ⟨hpage,-,hrest⟩ := hrows
  constructor
  · obtain ⟨earlier,hsplit⟩ := getLast?_eq_some_iff.mp hlast
    rw [hsplit,map_append,pairwise_append] at hpage
    intro row hrow
    rw [hsplit,mem_append,mem_singleton] at hrow
    rcases hrow with hearlier | rfl
    · exact le_of_lt (hpage.2.2 _ (mem_map_of_mem hearlier) _ mem_cons_self)
    · exact le_rfl
  · intro row hrow
    rw [← take_append_drop 500 rows,mem_append] at hrow
    exact hrow.imp_right fun hdrop =>
      hrest _ (mem_map_of_mem (mem_of_getLast? hlast)) _ (mem_map_of_mem hdrop)

/-- What is left behind the last row of a page was left before the page. -/
theorem left_last (hlast : last ∈ left filter lastId table) (later : Table id) :
    left filter (some (id last)) later = (left filter lastId later).filter fun row => id last < id row := by
  rw [left,mem_filter] at hlast
  rw [left,left,filter_filter]
  refine filter_congr fun row _ => ?_
  cases lastId <;> grind

/-- Behind the last row of a page is what the page leaves out. -/
theorem left_page (hlast : ((left filter lastId table).take 500).getLast? = some last) :
    left filter (some (id last)) table = (left filter lastId table).drop 500 := by
  have hmem := mem_of_getLast? hlast
  have hincreasing := increasing_left filter lastId table
  have hreached := (page_cut hincreasing hlast).1
  rw [left_last (mem_of_mem_take hmem)]
  generalize left filter lastId table = rows at *
  rw [← take_append_drop 500 rows,map_append,pairwise_append] at hincreasing
  have hrest : ∀ row ∈ rows.drop 500, id last < id row := fun row hrow =>
    hincreasing.2.2 _ (mem_map_of_mem hmem) _ (mem_map_of_mem hrow)
  conv_lhs => rw [← take_append_drop 500 rows]
  rw [filter_append,filter_eq_nil_iff.mpr (by simpa using hreached),filter_eq_self.mpr (by simpa using hrest)]
  rfl

section
variable (hevaluable : filter.evaluable = true)
include hevaluable

theorem scan_succ (lastId : Option Id) (tables : Nat → Table id)
    (queries : Nat) : scan filter lastId tables (queries + 1) =
      match ((left filter lastId (tables 0)).take 500).getLast? with
      | none => ([],.returned)
      | some last =>
        let later := scan filter (some (id last)) (fun query => tables (query + 1)) queries
        ((left filter lastId (tables 0)).take 500 ++ later.1,later.2) := by
  rw [scan,query_pageWhere,hevaluable]
  rfl

/-! ## Whole scans -/

theorem scan_sound (lastId : Option Id) (tables : Nat → Table id)
    (queries : Nat) : ((scan filter lastId tables queries).1.map id).Pairwise (· < ·) ∧
      (∀ row ∈ (scan filter lastId tables queries).1, lastId.all (· < id row) = true) ∧
      ((scan filter lastId tables queries).2 = .returned → ∀ rowId,
        (∀ query < queries, ∃ row ∈ left filter lastId (tables query), id row = rowId) →
        rowId ∈ (scan filter lastId tables queries).1.map id) := by
  induction queries generalizing lastId tables with
  | zero => exact ⟨.nil,nofun,nofun⟩
  | succ queries ih =>
    rw [scan_succ hevaluable]
    cases hlast : ((left filter lastId (tables 0)).take 500).getLast? with
    | none =>
      refine ⟨.nil,nofun,fun _ rowId hpresent => ?_⟩
      obtain ⟨row,hrow,-⟩ := hpresent 0 queries.succ_pos
      simp at hlast
      simp [hlast] at hrow
    | some last =>
      obtain ⟨hincreasing,hafter,hcomplete⟩ := ih (some (id last)) fun query => tables (query + 1)
      obtain ⟨hreached,hcut⟩ := page_cut (increasing_left filter lastId (tables 0)) hlast
      have hmem := mem_of_mem_take (mem_of_getLast? hlast)
      refine ⟨?_,?_,fun hreturned rowId hpresent => ?_⟩
      · rw [map_append,pairwise_append]
        refine ⟨(increasing_left filter lastId _).sublist ((take_sublist _ _).map id),hincreasing,?_⟩
        simp only [mem_map,forall_exists_index,and_imp]
        rintro _ row hrow rfl _ next hnext rfl
        exact lt_of_le_of_lt (hreached row hrow) (of_decide_eq_true (hafter next hnext))
      · intro row hrow
        rcases mem_append.mp hrow with hrow | hrow
        · exact behind_of_mem_left (mem_of_mem_take hrow)
        · exact behind_trans (behind_of_mem_left hmem) (of_decide_eq_true (hafter row hrow))
      · -- a row that stays is on this page, or behind its last row and on a later one
        rw [map_append,mem_append]
        obtain ⟨row,hrow,rfl⟩ := hpresent 0 queries.succ_pos
        refine (hcut row hrow).imp mem_map_of_mem fun hlater => hcomplete hreturned _ fun query hquery => ?_
        obtain ⟨other,hother,hid⟩ := hpresent (query + 1) (Nat.succ_lt_succ hquery)
        rw [left_last hmem]
        exact ⟨other,mem_filter.mpr ⟨hother,by simpa [hid] using hlater⟩,hid⟩

-- a first page without rows ends the scan at once
theorem ends_of_later (hlater : ∀ last ∈ left filter lastId (tables 0), ∃ queries,
    (scan filter (some (id last)) (fun query => tables (query + 1)) queries).2 = .returned) :
    ∃ queries, (scan filter lastId tables queries).2 = .returned := by
  cases hlast : ((left filter lastId (tables 0)).take 500).getLast? with
  | none => exact ⟨1,by rw [scan_succ hevaluable,hlast]⟩
  | some last =>
    obtain ⟨queries,hends⟩ := hlater last (mem_of_mem_take (mem_of_getLast? hlast))
    refine ⟨queries + 1,?_⟩
    rw [scan_succ hevaluable,hlast]
    exact hends

/-- Once nothing is committed any more, each page leaves fewer matches behind it. -/
theorem scan_ends (table : Table id) (lastId : Option Id) :
    ∃ queries, (scan filter lastId (fun _ => table) queries).2 = .returned := by
  induction hleft : (left filter lastId table).length using Nat.strongRecOn generalizing lastId with
  | ind _ ih =>
    refine ends_of_later hevaluable fun last hlast => ih _ ?_ (some (id last)) rfl
    rw [← hleft,left_last hlast,length_filter_lt_length_iff_exists]
    exact ⟨last,hlast,by simp⟩

theorem scan_settled (table : Table id) (lastId : Option Id) :
    ∃ queries, scan filter lastId (fun _ => table) queries = (left filter lastId table,.returned) := by
  obtain ⟨queries,hreturned⟩ := scan_ends hevaluable table lastId
  refine ⟨queries,?_⟩
  induction queries generalizing lastId with
  | zero => cases hreturned
  | succ queries ih =>
    rw [scan_succ hevaluable] at hreturned ⊢
    cases hlast : ((left filter lastId table).take 500).getLast? with
    | none => simp_all
    | some last =>
      rw [hlast] at hreturned
      dsimp only
      rw [ih _ hreturned,left_page hlast,take_append_drop]

theorem scan_settled_ends (settled : Nat) (lastId : Option Id)
    (hsettled : ∀ query ≥ settled, tables query = tables settled) :
    ∃ queries, (scan filter lastId tables queries).2 = .returned := by
  induction settled generalizing lastId tables with
  | zero =>
    rw [funext fun query => hsettled query query.zero_le]
    exact scan_ends hevaluable (tables 0) lastId
  | succ settled ih =>
    exact ends_of_later hevaluable fun last _ => ih (some (id last)) fun query hquery =>
      hsettled (query + 1) (Nat.succ_le_succ hquery)

end

theorem cursor_not_returned (hevaluable : filter.evaluable = false) (queries : Nat) :
    (cursor filter tables queries).2 ≠ .returned := by
  cases queries with
  | zero => nofun
  | succ queries =>
    rw [cursor,scan,query_pageWhere,hevaluable]
    nofun

/-- While nothing is committed, the pages make up the answer without a limit. -/
theorem cursor_unpaged (filter : Filter Row) (table : Table id) : (∃ queries,
      cursor filter (fun _ => table) queries = (table.rows.filter filter.accepts,.returned)) ↔
    filter.evaluable = true := by
  cases hevaluable : filter.evaluable with
  | false =>
    refine iff_of_false ?_ nofun
    rintro ⟨queries,hcursor⟩
    exact cursor_not_returned hevaluable queries (congrArg Prod.snd hcursor)
  | true =>
    obtain ⟨queries,hscan⟩ := scan_settled hevaluable table none
    refine iff_of_true ⟨queries,?_⟩ rfl
    simpa [cursor,left] using hscan

theorem scansCompletely_iff (settled : Nat) (hsettled : ∀ query ≥ settled, tables query = tables settled) :
    ScansCompletely filter tables ↔ filter.evaluable = true := by
  cases hevaluable : filter.evaluable with
  | false => exact iff_of_false (fun hscans => hscans.1.elim (cursor_not_returned hevaluable)) nofun
  | true =>
    refine iff_of_true ⟨scan_settled_ends hevaluable settled none hsettled,fun queries => ?_⟩ rfl
    obtain ⟨hincreasing,-,hcomplete⟩ := scan_sound hevaluable none tables queries
    refine ⟨hincreasing,fun hreturned rowId hmatches => ?_⟩
    have hmem := hcomplete hreturned rowId (by simpa [left,and_assoc,and_left_comm,and_comm] using hmatches)
    exact count_eq_one_of_mem (hincreasing.imp ne_of_lt) hmem

def oneRow : Table fun row : Nat => row := ⟨[1],by decide⟩

/-- An empty alternative asks nothing, and its text `()` is refused. -/
theorem empty_alternative_not_scanned : (Filter.or [.empty] .empty).accepts 1 = true ∧
    cursor (.or [.empty] .empty) (fun _ => oneRow) 1 = ([],.threw) ∧
    ¬ScansCompletely (.or [.empty] .empty) fun _ => oneRow := by
  have hrefused : (Filter.or [.empty] .empty : Filter Nat).evaluable = false := by
    simp [Filter.evaluable,Filter.asksNothing]
  refine ⟨by simp [Filter.accepts],?_,fun hscans => hscans.1.elim (cursor_not_returned hrefused)⟩
  rw [cursor,scan,query_pageWhere,hrefused]
  rfl

def twoRows : Table fun row : Nat => row := ⟨[1,8],by decide⟩

theorem alternatives_scanned : ScansCompletely
    (.or [.field ⟨true,(· < 3)⟩ .empty,.field ⟨true,(7 < ·)⟩ .empty] .empty)
    fun page => if page = 0 then oneRow else twoRows := by
  refine (scansCompletely_iff 1 fun page hpage => ?_).mpr (by simp [Filter.evaluable,Filter.asksNothing])
  rw [if_neg (Nat.ne_of_gt hpage),if_neg Nat.one_ne_zero]

end Routiq.Uam.Cursor
