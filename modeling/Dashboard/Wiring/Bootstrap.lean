/-!
# The script that every document starts with

It offers `registerClickHandler`, `registerChangeHandler` and `registerKeypressHandler`, each of
which takes the handler of a tab once and calls it for events within elements of that tab, and
`post`, which sends a message to whatever embeds the document.
-/

namespace Dashboard.Wiring

/-- The script that installs the registry of handlers. A second run changes nothing. -/
def bootstrap : String :=
  "\n".intercalate [
    "(function () \x7b",
    "  if (window.devboardRegistry) \x7b return; \x7d",
    "  var api = window.devboardApi ||",
    "    (typeof acquireVsCodeApi === 'function' ? acquireVsCodeApi() : null);",
    "  window.devboardApi = api;",
    "  var handlers = \x7b click: \x7b\x7d, change: \x7b\x7d, keypress: \x7b\x7d \x7d;",
    "  var bound = \x7b\x7d;",
    "",
    "  function post(message) \x7b",
    "    if (api) \x7b api.postMessage(message); \x7d",
    "    else if (window.parent && window.parent !== window) \x7b window.parent.postMessage(message, '*'); \x7d",
    "  \x7d",
    "",
    "  function findAction(target, root) \x7b",
    "    var el = target;",
    "    while (el && el !== root.parentElement) \x7b",
    "      if (el.getAttribute && el.getAttribute('data-action')) \x7b return el; \x7d",
    "      el = el.parentElement;",
    "    \x7d",
    "    return null;",
    "  \x7d",
    "",
    "  function bind(kind, tabId, handler) \x7b",
    "    var key = kind + ':' + tabId;",
    "    if (bound[key]) \x7b return false; \x7d",
    "    bound[key] = true;",
    "    handlers[kind][tabId] = handler;",
    "    document.addEventListener(kind, function (event) \x7b",
    "      var target = event.target;",
    "      var root = target && target.closest ? target.closest('[data-tab-id]') : null;",
    "      if (!root || root.getAttribute('data-tab-id') !== tabId) \x7b return; \x7d",
    "      var el = findAction(target, root);",
    "      if (!el) \x7b return; \x7d",
    "      handlers[kind][tabId](el.getAttribute('data-action'), el, event);",
    "    \x7d);",
    "    return true;",
    "  \x7d",
    "",
    "  window.devboardRegistry = \x7b",
    "    registerClickHandler: function (tabId, handler) \x7b return bind('click', tabId, handler); \x7d,",
    "    registerChangeHandler: function (tabId, handler) \x7b return bind('change', tabId, handler); \x7d,",
    "    registerKeypressHandler: function (tabId, handler) \x7b return bind('keypress', tabId, handler); \x7d,",
    "    post: post",
    "  \x7d;",
    "\x7d)();" ]

end Dashboard.Wiring
