/-! # Pages

A listing is read page by page. An offset page is addressed by its number, or by the position of its
first row; a cursor page by the cursor that the page before it handed out, and without one it is the
first page.
-/

namespace Venues

/-- The smallest number of rows that a page may ask for. -/
def minLimit : Int := 1

/-- The largest number of rows that a page may ask for. -/
def maxLimit : Int := 100

/-- The number of leading results that the search index lets a page reach. -/
def resultWindow : Int := 10000

/-- Which page is asked for. -/
inductive Page where
  | offset (number limit : Int) (start? : Option Int)
  | cursor (cursor? : Option String) (limit : Int)

namespace Page

def limit : Page → Int
  | .offset _ limit _ | .cursor _ limit => limit

def isCursor : Page → Bool
  | .offset .. => false
  | .cursor .. => true

def cursor? : Page → Option String
  | .offset .. => none
  | .cursor c _ => c

/-- The position of the first row of an offset page. -/
def startOf (number limit : Int) (start? : Option Int) : Int := start?.getD ((number - 1) * limit)

end Page
end Venues
