import AstCompare.Shell.Tool.Basic

/-!
# Dates and times

Moments are counted in seconds from the beginning of 1970. They are written by formats and read from
texts: dates, times, and amounts of time from now on or back.

## Main definitions

* `civilDate`, `daysTo`: days and dates.
* `momentText`: a moment by a format.
* `moment?`, `stampMoment?`: the moment that a text names.
-/

namespace AstCompare.Shell.Tool

/-- The year, month and day of a number of days since the beginning of 1970. -/
def civilDate (days : Int) : Int × Int × Int :=
  let z := days + 719468
  let era := z / 146097
  let d := z % 146097
  let y := (d - d / 1460 + d / 36524 - d / 146096) / 365
  let dayOfYear := d - (365 * y + y / 4 - y / 100)
  let m := (5 * dayOfYear + 2) / 153
  let day := dayOfYear - (153 * m + 2) / 5 + 1
  let month := if m < 10 then m + 3 else m - 9
  (y + era * 400 + if month ≤ 2 then 1 else 0, month, day)

/-- The number of days from the beginning of 1970 to a date. -/
def daysTo (year month day : Int) : Int :=
  let y := if month ≤ 2 then year - 1 else year
  let era := y / 400
  let m := if 2 < month then month - 3 else month + 9
  let dayOfYear := (153 * m + 2) / 5 + day - 1
  let yearOfEra := y % 400
  era * 146097 + (yearOfEra * 365 + yearOfEra / 4 - yearOfEra / 100 + dayOfYear) - 719468

/-- The names of the months. -/
def monthNames : List String :=
  ["January", "February", "March", "April", "May", "June", "July", "August", "September", "October",
    "November", "December"]

/-- The names of the days. -/
def dayNames : List String :=
  ["Sunday", "Monday", "Tuesday", "Wednesday", "Thursday", "Friday", "Saturday"]

/-- The first three letters of a name. -/
def short (s : String) : String :=
  (s.take 3).toString

/-- A number of two digits. -/
def twoDigits (n : Int) : String :=
  (if n < 10 then "0" else "") ++ toString n

/-- The number of the week of a year that belongs to a day, and that year. Weeks begin on Mondays,
and the first one is that with the first Thursday. -/
def weekOf (t : Int) : Int × Int :=
  let days := t / 86400
  -- The Thursday of the same week.
  let thursday := days - (days + 3) % 7 + 3
  let (y, _, _) := civilDate thursday
  (y, (thursday - daysTo y 1 1) / 7 + 1)

/-- What a letter of a format stands for, and the sign that fills it up to a width. -/
def momentPart (t : Int) (c : Char) : Option (String × Nat × Char) :=
  let (y, m, d) := civilDate (t / 86400)
  let s := t % 86400
  let weekday := ((t / 86400) % 7 + 4) % 7
  let dayOfYear := daysTo y m d - daysTo y 1 1 + 1
  let hour := (s / 3600 + 11) % 12 + 1
  let time := twoDigits (s / 3600) ++ ":" ++ twoDigits (s / 60 % 60) ++ ":" ++ twoDigits (s % 60)
  let two (n : Int) : Option (String × Nat × Char) := some (toString n, 2, '0')
  let blank (n : Int) : Option (String × Nat × Char) := some (toString n, 2, ' ')
  let word (s : String) : Option (String × Nat × Char) := some (s, 0, ' ')
  match c with
  | 's' => some (toString t, 0, '0')
  | 'Y' => some (toString y, 0, '0')
  | 'G' => some (toString (weekOf t).1, 0, '0')
  | 'C' => two (y / 100)
  | 'y' => two (y % 100)
  | 'g' => two ((weekOf t).1 % 100)
  | 'm' => two m
  | 'd' => two d
  | 'e' => blank d
  | 'H' => two (s / 3600)
  | 'I' => two hour
  | 'l' => blank hour
  | 'k' => blank (s / 3600)
  | 'M' => two (s / 60 % 60)
  | 'S' => two (s % 60)
  | 'p' => word (if s < 43200 then "AM" else "PM")
  | 'P' => word (if s < 43200 then "am" else "pm")
  | 'F' => word (toString y ++ "-" ++ twoDigits m ++ "-" ++ twoDigits d)
  | 'D' | 'x' => word (twoDigits m ++ "/" ++ twoDigits d ++ "/" ++ twoDigits (y % 100))
  | 'T' | 'X' => word time
  | 'r' =>
    word (twoDigits hour ++ ":" ++ twoDigits (s / 60 % 60) ++ ":" ++ twoDigits (s % 60) ++
      if s < 43200 then " AM" else " PM")
  | 'R' => word (twoDigits (s / 3600) ++ ":" ++ twoDigits (s / 60 % 60))
  | 'c' =>
    word (short (dayNames.getD weekday.toNat "") ++ " " ++
      short (monthNames.getD (m - 1).toNat "") ++ " " ++
      (if d < 10 then " " else "") ++ toString d ++ " " ++ time ++ " " ++ toString y)
  | 'N' => word "000000000"
  | 'Z' => word "UTC"
  | 'z' => word "+0000"
  | 'a' => word (short (dayNames.getD weekday.toNat ""))
  | 'A' => word (dayNames.getD weekday.toNat "")
  | 'b' | 'h' => word (short (monthNames.getD (m - 1).toNat ""))
  | 'B' => word (monthNames.getD (m - 1).toNat "")
  | 'u' => word (toString (if weekday == 0 then 7 else weekday))
  | 'w' => word (toString weekday)
  | 'q' => word (toString ((m + 2) / 3))
  | 'U' => two ((dayOfYear + 6 - weekday) / 7)
  | 'W' => two ((dayOfYear + 6 - (weekday + 6) % 7) / 7)
  | 'V' => two (weekOf t).2
  | 'j' => some (toString dayOfYear, 3, '0')
  | 'n' => word "\n"
  | 't' => word "\t"
  | '%' => word "%"
  | _ => none

/-- A part in the form that flags and a width ask for. -/
def flaggedPart (flags : List Char) (width : Option Nat) (part : String × Nat × Char) : String :=
  let (text, least, sign) := part
  let (least, sign) := flags.foldl (fun (least, sign) f => match f with
    | '-' => (0, sign)
    | '_' => (least, ' ')
    | '0' | '+' => (least, '0')
    | _ => (least, sign)) (least, sign)
  let least := if flags.contains '-' then 0 else max least (width.getD 0)
  let text := "".pushn sign (least - text.length) ++ text
  if flags.contains '^' then text.map Char.toUpper
  else if flags.contains '#' then
    (if text.any Char.isLower then text.map Char.toUpper else text.map Char.toLower)
  else text

/-- A moment by a format. `fuel` bounds the number of its parts. -/
def momentParts (t : Int) (fuel : Nat) (cs : List Char) : String :=
  match fuel, cs with
  | 0, _ | _, [] => ""
  | fuel + 1, '%' :: cs =>
    let flags := cs.takeWhile fun c => ['-', '_', '0', '+', '^', '#'].contains c
    let rest := cs.drop flags.length
    let digits := rest.takeWhile Char.isDigit
    let rest := rest.drop digits.length
    let rest := match rest with
      | 'E' :: more | 'O' :: more => more
      | rest => rest
    match rest with
    | ':' :: 'z' :: more => "+00:00" ++ momentParts t fuel more
    | ':' :: ':' :: 'z' :: more => "+00:00:00" ++ momentParts t fuel more
    | 'N' :: more =>
      -- A width cuts the parts of a second.
      let n := (String.ofList digits).toNat?.getD 9
      "".pushn '0' n ++ momentParts t fuel more
    | c :: more =>
      match momentPart t c with
      | some part => flaggedPart flags (String.ofList digits).toNat? part ++ momentParts t fuel more
      | none => "%" ++ momentParts t fuel cs
    | [] => "%" ++ momentParts t fuel cs
  | fuel + 1, c :: cs => String.singleton c ++ momentParts t fuel cs

/-- A moment by a format. -/
def momentText (t : Int) (cs : List Char) : String :=
  momentParts t (cs.length + 1) cs

/-- The present moment, in seconds, when the disk knows the time zero. -/
def beginning : Int := 1700000000

/-- The moment of a time of the disk. -/
def momentOf (time : Int) : Int :=
  beginning + time / 1000000

/-- The time of the disk of a moment in seconds. -/
def timeOf (moment : Int) : Int :=
  (moment - beginning) * 1000000

/-! ### Reading -/

/-- What has been read of a moment: the date, the time of the day, and what is to be added. -/
structure Reading where
  date : Option (Int × Int × Int) := none
  time : Option Int := none
  months : Int := 0
  seconds : Int := 0

/-- The number of the month whose name begins with a word. -/
def month? (s : String) : Option Int :=
  if s.length < 3 then none
  else
    (monthNames.findIdx? fun m => (m.toLower.startsWith s)).map fun i => (i : Int) + 1

/-- The time of the day that a word names, in seconds. -/
def dayTime? (s : String) : Option Int :=
  let cs := if s.endsWith "z" then (s.dropEnd 1).toString else s
  let body := (cs.splitOn ".").headD ""
  match (body.splitOn ":").mapM fun (d : String) => (digits? d).map Int.ofNat with
  | some [h, m] => if h < 24 && m < 60 then some (h * 3600 + m * 60) else none
  | some [h, m, sec] =>
    if h < 24 && m < 60 && sec < 61 then some (h * 3600 + m * 60 + sec) else none
  | _ => none

/-- The date that a word names. -/
def date? (s : String) : Option (Int × Int × Int) :=
  let valid (y m d : Int) : Option (Int × Int × Int) :=
    if 1 ≤ m && m ≤ 12 && 1 ≤ d && civilDate (daysTo y m d) == (y, m, d) then some (y, m, d)
    else none
  let numbers (sep : String) : Option (List Int) :=
    (s.splitOn sep).mapM fun (d : String) => (digits? d).map Int.ofNat
  match numbers "-", numbers "/" with
  | some [y, m, d], _ => valid y m d
  | _, some [a, b, c] => if 31 < a then valid a b c else valid c a b
  | some [n], _ => if s.length == 8 then valid (n / 10000) (n / 100 % 100) (n % 100) else none
  | _, _ => none

/-- The seconds or months of a unit. -/
def unit? (s : String) : Option (Int × Int) :=
  match if s.endsWith "s" then (s.dropEnd 1).toString else s with
  | "sec" | "second" => some (1, 0)
  | "min" | "minute" => some (60, 0)
  | "hour" => some (3600, 0)
  | "day" => some (86400, 0)
  | "week" => some (604800, 0)
  | "fortnight" => some (1209600, 0)
  | "month" => some (0, 1)
  | "year" => some (0, 12)
  | _ => none

/-- Reads the words of a moment. -/
def readMoment (r : Reading) : List String → Option Reading
  | [] => some r
  | w :: ws =>
    let shift (n : Int) (unit : String) (rest : List String) : Option (Reading × List String) :=
      (unit? unit).map fun (s, m) =>
        let (n, rest) := match rest with
          | "ago" :: rest => (-n, rest)
          | rest => (n, rest)
        ({ r with seconds := r.seconds + n * s, months := r.months + n * m }, rest)
    match w with
    | "now" | "utc" | "gmt" | "z" | "at" | "" => readMoment r ws
    | "today" => readMoment r ws
    | "yesterday" => readMoment { r with seconds := r.seconds - 86400 } ws
    | "tomorrow" => readMoment { r with seconds := r.seconds + 86400 } ws
    | "midnight" => readMoment { r with time := some 0 } ws
    | "noon" => readMoment { r with time := some 43200 } ws
    | _ =>
      match date? w, dayTime? w with
      | some d, _ => readMoment { r with date := some d } ws
      | none, some t => readMoment { r with time := some t } ws
      | none, none =>
        let number : Option Int := match w with
          | "next" => some 1
          | "last" => some (-1)
          | "this" => some 0
          | w => (if w.startsWith "+" then (w.drop 1).toString else w).toInt?
        match number, ws with
        | some n, unit :: rest =>
          match rest with
          | "ago" :: rest =>
            match shift n unit ["ago"] with
            | some (r, _) => readMoment r rest
            | none => none
          | rest =>
            match shift n unit [] with
            | some (r, _) => readMoment r rest
            | none => none
        | _, _ => none

/-- A time of the day before or after noon, in twenty-four hours. -/
def halfDayTime? (w half : String) : Option String :=
  let parts := w.splitOn ":"
  match half, (parts.head?).bind digits? with
  | "am", some h | "a.m.", some h => if 1 ≤ h && h ≤ 12 then some (time (h % 12) parts) else none
  | "pm", some h | "p.m.", some h =>
    if 1 ≤ h && h ≤ 12 then some (time (h % 12 + 12) parts) else none
  | _, _ => none
where
  /-- The time with another hour. -/
  time (h : Nat) (parts : List String) : String :=
    ":".intercalate (toString h :: if parts.length == 1 then ["00"] else parts.tail)

/-- A number and the letters behind it as two words. The letter for the universal time is
dropped. -/
def splitWord (w : String) : List String :=
  let front := w.toList.takeWhile fun c => !c.isAlpha
  let back := w.toList.drop front.length
  if front.isEmpty || back.isEmpty || !back.all fun c => c.isAlpha || c == '.' then [w]
  else if back == ['z'] then [String.ofList front]
  else [String.ofList front, String.ofList back]

/-- The words of a moment, where signs stand before their numbers and times know their halves of the
day. -/
def joinSigns : List String → List String
  | a :: b :: rest =>
    if (a == "+" || a == "-") && (digits? b).isSome then
      (if a == "+" then b else a ++ b) :: joinSigns rest
    else
      match halfDayTime? a b with
      | some time => time :: joinSigns rest
      | none => a :: joinSigns (b :: rest)
  | ws => ws

/-- A date in words, such as `3 Feb 2001`, as one word. -/
def joinDates : List String → List String
  | a :: b :: c :: rest =>
    match digits? a, month? b, digits? c with
    | some d, some m, some y =>
      if 31 < y then (toString y ++ "-" ++ toString m ++ "-" ++ toString d) :: joinDates rest
      else a :: joinDates (b :: c :: rest)
    | _, _, _ =>
      match month? a, digits? (if b.endsWith "," then (b.dropEnd 1).toString else b), digits? c with
      | some m, some d, some y =>
        if 31 < y then (toString y ++ "-" ++ toString m ++ "-" ++ toString d) :: joinDates rest
        else a :: joinDates (b :: c :: rest)
      | _, _, _ => a :: joinDates (b :: c :: rest)
  | ws => ws
termination_by ws => ws.length

/-- The moment that a text names, in seconds. -/
def moment? (now : Int) (s : String) : Option Int :=
  match s.trimAscii.toString.toList with
  | '@' :: cs => ((String.ofList cs).splitOn ".").head?.bind String.toInt?
  | _ =>
    let lower := s.map Char.toLower
    -- A date and a time may be joined by a letter.
    let words := (lower.splitOn " ").flatMap fun w =>
      match w.splitOn "t" with
      | [d, t] => if (date? d).isSome && (dayTime? t).isSome then [d, t] else [w]
      | _ => [w]
    let words := joinSigns ((words.flatMap splitWord).filter (· != ""))
    (readMoment {} (joinDates words)).map fun r =>
      let (y, m, d) := r.date.getD (civilDate (now / 86400))
      let time := r.time.getD (if r.date.isSome then 0 else now % 86400)
      let total := y * 12 + (m - 1) + r.months
      daysTo (total / 12) (total % 12 + 1) d * 86400 + time + r.seconds

/-- The moment that a stamp of digits names: month, day, hour and minute, perhaps with the year
before and the seconds after a dot. -/
def stampMoment? (now : Int) (s : String) : Option Int :=
  let (body, seconds) := match s.splitOn "." with
    | [b] => (b, some 0)
    | [b, sec] => (b, (digits? sec).filter fun n => sec.length == 2 && n < 61)
    | _ => ("", none)
  match digits? body, seconds with
  | some n, some sec =>
    let (thisYear, _, _) := civilDate (now / 86400)
    let year : Option Int := match body.length with
      | 8 => some thisYear
      | 10 => let y := n / 100000000; some (if 68 < y then 1900 + y else 2000 + y)
      | 12 => some (n / 100000000)
      | _ => none
    let (month, day, hour, minute) := (n / 1000000 % 100, n / 10000 % 100, n / 100 % 100, n % 100)
    year.bind fun y =>
      if 1 ≤ month && month ≤ 12 && 1 ≤ day && day ≤ 31 && hour < 24 && minute < 60 then
        some (daysTo y month day * 86400 + hour * 3600 + minute * 60 + sec)
      else none
  | _, _ => none

end AstCompare.Shell.Tool
