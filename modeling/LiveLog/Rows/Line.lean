import LiveLog.Rows
import LiveLog.Time.Clock

namespace LiveLog

/-!
# Rows as lines of text

A row of the merged log is one line: the time of day, the process, and what it
shows. The line of a group counts its entries and lists what each one did.
-/

/-- What an entry did, in a few words. An entry that uses no tool speaks for
itself. -/
def Entry.summary (e : Entry) : String :=
  match e.kind with
  | .toolUse toolName action _ =>
    match action with
    | .fileRead path => "read " ++ path
    | .search query => "search " ++ query
    | .webFetch url => "fetch " ++ url
    | .fileEdit path _ => "edit " ++ path
    | .commandRun command _ => "$ " ++ command
    | _ => toolName ++ ": " ++ e.content
  | _ => e.content

/-- What the entries of a group are called. -/
def GroupKind.plural : GroupKind → String
  | fileRead => "file reads"
  | search => "searches"
  | webFetch => "web fetches"

/-- What a payload says. -/
def Payload.summary : Payload → String
  | text s => s
  | entry e => e.summary

/-- When an entry was made, and by which process. -/
def MergedEntry.heading (e : MergedEntry) : String :=
  Clock.text e.time ++ " [" ++ e.processName ++ "] "

/-- The line of one entry. -/
def MergedEntry.line (e : MergedEntry) : String :=
  e.heading ++ e.channel.name ++ ": " ++ e.payload.summary

/-- The line of a group. A group of no entries has an empty line. -/
def Group.line (g : Group MergedEntry) : String :=
  match g.entries with
  | [] => ""
  | first :: rest =>
    first.heading ++ Count.text g.entries.length ++ " " ++ g.kind.plural ++ ": " ++
      ", ".intercalate ((first :: rest).filterMap fun e => e.entry?.map Entry.summary)

/-- The line of a row. -/
def Row.line : Row MergedEntry → String
  | entry e => e.line
  | group g => g.line

end LiveLog
