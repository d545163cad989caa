import WebPreview.Framework
import WebPreview.SourceFile
import WebPreview.Text.Classes

/-! # Starter projects

A small project for each framework, and what the framework is called. Every page carries the tags
that the style sheet and the script are put in place of, so that a starter builds as it is.
-/

namespace WebPreview

namespace Framework

/-- What a framework is called. -/
def title : Framework → String
  | vanilla => "Vanilla JS"
  | react => "React"
  | vue => "Vue.js"
  | svelte => "Svelte"

/-- What a framework is for. -/
def description : Framework → String
  | vanilla => "Plain HTML, CSS and JavaScript"
  | react => "Components written in JSX, rendered with React 18"
  | vue => "Reactive components with the Vue 3 global build"
  | svelte => "Single-file components compiled by the Svelte compiler"

end Framework

namespace Starter

open Text

/-- A page with the given title and the given lines in its head and its body. -/
def page (title : String) (head body : List String) : String :=
  joinLines (["<!DOCTYPE html>",
    "<html lang=\"en\">",
    "<head>",
    "    <meta charset=\"UTF-8\">",
    "    <meta name=\"viewport\" content=\"width=device-width, initial-scale=1.0\">",
    "    <title>" ++ title ++ "</title>"]
    ++ head ++ ["</head>", "<body>"] ++ body ++ ["</body>", "</html>"])

/-- Where the pages get the framework's own scripts from. -/
def cdn : String := "https://unpkg.com/"

/-- The style sheet that every starter has. -/
def style : String := joinLines
   ["* \x7b",
    "    margin: 0;",
    "    padding: 0;",
    "    box-sizing: border-box;",
    "\x7d",
    "",
    "body \x7b",
    "    font-family: system-ui, -apple-system, sans-serif;",
    "    line-height: 1.6;",
    "    color: #1f2937;",
    "    background: #f9fafb;",
    "\x7d",
    "",
    ".container \x7b",
    "    max-width: 720px;",
    "    margin: 0 auto;",
    "    padding: 3rem 1.5rem;",
    "    text-align: center;",
    "\x7d",
    "",
    "h1 \x7b",
    "    font-size: 2.5rem;",
    "    margin-bottom: 1rem;",
    "\x7d",
    "",
    "button \x7b",
    "    padding: 0.75rem 1.5rem;",
    "    border: none;",
    "    border-radius: 8px;",
    "    background: #6366f1;",
    "    color: white;",
    "    font-size: 1rem;",
    "    cursor: pointer;",
    "\x7d",
    "",
    "button:hover \x7b",
    "    background: #4f46e5;",
    "\x7d"]

/-- The page of the Vanilla JS starter. -/
def vanillaPage : String := page Framework.vanilla.title
   ["    <link rel=\"stylesheet\" href=\"style.css\">"]
   ["    <main class=\"container\">",
    "        <h1>Hello, vanilla</h1>",
    "        <p>Clicked <span id=\"count\">0</span> times</p>",
    "        <button id=\"counter\">Click me</button>",
    "    </main>",
    "    <script src=\"script.js\"></script>"]

/-- The script of the Vanilla JS starter. -/
def vanillaScript : String := joinLines
   ["let count = 0;",
    "",
    "document.getElementById('counter').addEventListener('click', () => \x7b",
    "    count += 1;",
    "    document.getElementById('count').textContent = count;",
    "    console.log('count is now', count);",
    "\x7d);"]

/-- The page of the React starter. -/
def reactPage : String := page Framework.react.title
   ["    <script crossorigin src=\"" ++ cdn ++ "react@18/umd/react.development.js\"></script>",
    "    <script crossorigin src=\"" ++ cdn
      ++ "react-dom@18/umd/react-dom.development.js\"></script>",
    "    <script src=\"" ++ cdn ++ "@babel/standalone/babel.min.js\"></script>",
    "    <link rel=\"stylesheet\" href=\"style.css\">"]
   ["    <div id=\"root\"></div>",
    "    <script type=\"text/babel\" src=\"script.js\"></script>"]

/-- The script of the React starter. -/
def reactScript : String := joinLines
   ["const \x7b useState \x7d = React;",
    "",
    "function App() \x7b",
    "    const [count, setCount] = useState(0);",
    "",
    "    return (",
    "        <main className=\"container\">",
    "            <h1>Hello, React</h1>",
    "            <p>Clicked \x7bcount\x7d times</p>",
    "            <button onClick=\x7b() => setCount(count + 1)\x7d>Click me</button>",
    "        </main>",
    "    );",
    "\x7d",
    "",
    "ReactDOM.createRoot(document.getElementById('root')).render(<App />);"]

/-- The page of the Vue.js starter. -/
def vuePage : String := page Framework.vue.title
   ["    <script src=\"" ++ cdn ++ "vue@3/dist/vue.global.js\"></script>",
    "    <link rel=\"stylesheet\" href=\"style.css\">"]
   ["    <div id=\"app\">",
    "        <main class=\"container\">",
    "            <h1>\x7b\x7b title \x7d\x7d</h1>",
    "            <p>Clicked \x7b\x7b count \x7d\x7d times</p>",
    "            <button @click=\"count++\">Click me</button>",
    "        </main>",
    "    </div>",
    "    <script src=\"script.js\"></script>"]

/-- The script of the Vue.js starter. -/
def vueScript : String := joinLines
   ["const \x7b createApp, ref \x7d = Vue;",
    "",
    "createApp(\x7b",
    "    setup() \x7b",
    "        const title = ref('Hello, Vue');",
    "        const count = ref(0);",
    "        return \x7b title, count \x7d;",
    "    \x7d",
    "\x7d).mount('#app');"]

/-- The page of the Svelte starter. -/
def sveltePage : String := page Framework.svelte.title
   ["    <link rel=\"stylesheet\" href=\"style.css\">"]
   ["    <div id=\"app\"></div>",
    "    <script type=\"module\" src=\"main.js\"></script>"]

/-- The component of the Svelte starter. -/
def svelteComponent : String := joinLines
   ["<script>",
    "    let count = 0;",
    "",
    "    function increment() \x7b",
    "        count += 1;",
    "    \x7d",
    "</script>",
    "",
    "<main class=\"container\">",
    "    <h1>Hello, Svelte</h1>",
    "    <p>Clicked \x7bcount\x7d times</p>",
    "    <button on:click=\x7bincrement\x7d>Click me</button>",
    "</main>",
    "",
    "<style>",
    "    h1 \x7b",
    "        color: #ff3e00;",
    "    \x7d",
    "</style>"]

/-- The script that stands in for the component of the Svelte starter. -/
def svelteScript : String := joinLines
   ["const target = document.getElementById('app');",
    "let count = 0;",
    "",
    "target.innerHTML = `",
    "    <main class=\"container\">",
    "        <h1>Hello, Svelte</h1>",
    "        <p>Clicked <span id=\"count\">0</span> times</p>",
    "        <button id=\"counter\">Click me</button>",
    "    </main>",
    "`;",
    "",
    "document.getElementById('counter').addEventListener('click', () => \x7b",
    "    count += 1;",
    "    document.getElementById('count').textContent = count;",
    "\x7d);"]

/-- The files of a starter, in order. -/
def contents : Framework → List (String × String)
  | .vanilla =>
    [("index.html", vanillaPage), ("style.css", style), ("script.js", vanillaScript)]
  | .react => [("index.html", reactPage), ("style.css", style), ("script.js", reactScript)]
  | .vue => [("index.html", vuePage), ("style.css", style), ("script.js", vueScript)]
  | .svelte =>
    [("index.html", sveltePage), ("style.css", style), ("App.svelte", svelteComponent),
     ("main.js", svelteScript)]

/-- The starter of a framework. -/
def files (framework : Framework) : SourceSet := .ofContents (contents framework)

/-- The starter of the framework that a value names. -/
def ofValue (room : Nat) (v : Json) : Except Raised SourceSet := do
  return files (← Framework.ofValue room v)

/-- The starter of the framework that a text names. -/
def named (name : String) : Except PreviewError SourceSet := do
  return files (← Framework.parse name)

end Starter

end WebPreview
