import TextLog.Time.Zone
import TextLog.Failure

/-!
# Named Zones

The zones that are known by name, and how a setting is resolved to a zone.

A name is taken letter by letter; no case is folded and no blank dropped. The part
of a name in front of a slash is the name of a group of zones. A group is no zone
either, but looking one up fails in a way of its own. A fixed offset has to be less
than a day.

## Main definitions

* `knownZones`: The zones with a name.
* `zoneGroups`: The groups that they are in.
* `ZoneSetting`: A zone as it is written in a configuration.
* `ZoneSetting.resolve`: The zone that is meant.
-/

namespace TextLog

namespace Time

/-- Central European time. -/
def centralEurope (key : String) : NamedZone :=
  ⟨key, "CET", 3600, some ⟨"CEST", 7200, ⟨3, 5, 0, 7200⟩, ⟨10, 5, 0, 10800⟩⟩⟩

/-- A zone with the daylight saving of North America. -/
def northAmerica (key name : String) (offset : Int) (summer : String) : NamedZone :=
  ⟨key, name, offset, some ⟨summer, offset + 3600, ⟨3, 2, 0, 7200⟩, ⟨11, 1, 0, 7200⟩⟩⟩

/-- A zone that keeps its offset. -/
def constantZone (key name : String) (offset : Int) : NamedZone :=
  ⟨key, name, offset, none⟩

/-- The zones with a name. -/
def knownZones : List NamedZone :=
  [constantZone "UTC" "UTC" 0,
   centralEurope "Europe/Berlin",
   centralEurope "Europe/Paris",
   ⟨"Europe/London", "GMT", 0, some ⟨"BST", 3600, ⟨3, 5, 0, 3600⟩, ⟨10, 5, 0, 7200⟩⟩⟩,
   northAmerica "America/New_York" "EST" (-18000) "EDT",
   northAmerica "America/Los_Angeles" "PST" (-28800) "PDT",
   northAmerica "America/St_Johns" "NST" (-12600) "NDT",
   constantZone "Asia/Tokyo" "JST" 32400,
   constantZone "Asia/Kolkata" "IST" 19800,
   constantZone "Asia/Kathmandu" "+0545" 20700,
   ⟨"Australia/Sydney", "AEST", 36000,
     some ⟨"AEDT", 39600, ⟨10, 1, 0, 7200⟩, ⟨4, 1, 0, 10800⟩⟩⟩,
   ⟨"Australia/Lord_Howe", "+1030", 37800,
     some ⟨"+11", 39600, ⟨10, 1, 0, 7200⟩, ⟨4, 1, 0, 7200⟩⟩⟩,
   constantZone "Pacific/Kiritimati" "+14" 50400,
   constantZone "America/Phoenix" "MST" (-25200),
   constantZone "Etc/GMT+5" "-05" (-18000)]

/-- The groups that a name is in, which are the parts of it in front of a slash. -/
def groupsOf (name : String) : List String :=
  (name.toList.zipIdx.filter fun p => p.1 == '/').map fun p =>
    String.ofList (name.toList.take p.2)

/-- The groups of the zones with a name. -/
def zoneGroups : List String :=
  knownZones.flatMap fun z => groupsOf z.key

/-- A zone as it is written in a configuration. -/
inductive ZoneSetting where
  /-- No zone is given: the one of the system. -/
  | home
  /-- The name of a zone. -/
  | name (s : String)
  /-- A fixed offset, perhaps with a name. -/
  | fixed (offset : Int) (name : Option String)
  /-- Something else, which is no zone. -/
  | other (v : Value)

namespace ZoneSetting

/-- The setting of an optional name. -/
def ofName? : Option String → ZoneSetting
  | none => .home
  | some s => .name s

/-- The zone of a name. -/
def lookUp (s : String) : Except Failure Zone :=
  match knownZones.find? fun z => z.key == s with
  | some z => .ok (.named z)
  | none => if zoneGroups.contains s then .error (.zoneDirectory s) else .error (.unknownZone s)

/-- The zone that a setting means. -/
def resolve : ZoneSetting → Except Failure Zone
  | .home => .ok .home
  | .fixed offset label =>
    if offset.natAbs < 86400 then .ok (.fixed offset label) else .error (.offsetRange offset)
  | .name s => lookUp s
  | .other (.list items) => .error (.unhashable (Value.list items).kind)
  | .other (.map entries) => .error (.unhashable (Value.map entries).kind)
  | .other v => .error (.pathKind v.kind)

/-- The setting as it is shown: nothing, the name, or the offset. -/
def shown? : ZoneSetting → Option String
  | .home => none
  | .name s => some s
  | .fixed offset label => some (Zone.fixedText offset label)
  | .other v => some v.literal

end ZoneSetting

end Time

end TextLog
